import RegistryBridge.Proofs.Pass.Script
import RegistryBridge.Proofs.Program.Woven
import RegistryBridge.Proofs.Provisioning.Settled
/-!
# What provisioning makes only when it has heard that it is missing

Every step of provisioning looks first, and makes something only when it has been told that it is
not there. What hangs on something else is asked about only when that has been found or made: robots
and repositories on the organization; the role, the pull secret and the links each on what comes
before it. An answer that says nothing is neither.

## Main definitions

* `Provisioning.Founded`, `Provisioning.Known`, `Provisioning.Granted`, `Provisioning.Supplied`: how
  far provisioning has come, by what has been heard.
* `Provisioning.RoleWarranted`, `Provisioning.Warranted`: what may be asked after what.

## Main results

* `Provisioning.roleStep_warranted`, `Provisioning.repositories_warranted`: provisioning asks only
  what is warranted, and succeeds only when nothing has failed.
* `Provisioning.roles_woven`: the service accounts may take turns in any order.
-/

namespace RegistryBridge.Provisioning

open Transcript (Then Lasting)

variable (p : Provisioning)

/-! ## What has been heard -/

/-- The organization has been looked up, and is not there. -/
def Unfounded : Transcript Bridge → Prop :=
  Then (fun _ => True) ((RegistryCall.getOrganization p.organization).Answered (·.status = 404))

/-- **The organization has been found or made.** -/
def Founded (t : Transcript Bridge) : Prop :=
  Then (fun _ => True) ((RegistryCall.getOrganization p.organization).Answered (·.status = 200)) t ∨
    Then p.Unfounded ((RegistryCall.createOrganization p.organization).Answered (·.status = 201)) t

section Role

variable (account : String) (role : Registry.Role) (robot : Registry.Robot)

/-- The robot has been looked up, and is not there. -/
def Unknown : Transcript Bridge → Prop :=
  Then p.Founded ((RegistryCall.getRobot p.organization account).Answered
    fun response => response.status = 400 ∨ response.status = 404)

/-- **The robot has been found or made**, and it is this one. -/
def Known (t : Transcript Bridge) : Prop :=
  Then p.Founded ((RegistryCall.getRobot p.organization account).Answered
      fun response => response.status = 200 ∧ p.robotOf account response.body = .ok robot) t ∨
    Then (p.Unknown account) ((RegistryCall.createRobot p.organization account).Answered
      fun response => response.status = 201 ∧ p.robotOf account response.body = .ok robot) t

/-- The prototypes of the organization have been listed, and none gives the robot its role. -/
def Ungranted : Transcript Bridge → Prop :=
  Then (p.Known account robot) ((RegistryCall.getPrototypes p.organization).Answered
    fun (response : Registry.Response Registry.Prototypes) => response.status = 200 ∧
      ¬ ∃ list, response.body = some list ∧ list.grants robot.name role = true)

/-- **The robot has its role** by a prototype that has been found or made. -/
def Granted (t : Transcript Bridge) : Prop :=
  Then (p.Known account robot) ((RegistryCall.getPrototypes p.organization).Answered
      fun (response : Registry.Response Registry.Prototypes) => response.status = 200 ∧
        ∃ list, response.body = some list ∧ list.grants robot.name role = true) t ∨
    Then (p.Ungranted account role robot)
      ((RegistryCall.createPrototype p.organization robot.name role).Answered (·.status = 200)) t

/-- The pull secret has been read, and does not hold the robot's token. -/
def Unsupplied : Transcript Bridge → Prop :=
  Then (p.Granted account role robot)
    ((ClusterCall.getSecret p.ns (p.spec.pullSecretName account)).Given
      fun (found : Option Secret) =>
        ¬ ∃ secret, found = some secret ∧
          secret.agrees (p.wanted account robot.name robot.token) = true)

/-- **The pull secret holds the robot's token**, as it was found or as it has been written. -/
def Supplied (t : Transcript Bridge) : Prop :=
  Then (p.Granted account role robot)
      ((ClusterCall.getSecret p.ns (p.spec.pullSecretName account)).Given
        fun (found : Option Secret) =>
          ∃ secret, found = some secret ∧
            secret.agrees (p.wanted account robot.name robot.token) = true) t ∨
    Then (p.Unsupplied account role robot)
      ((ClusterCall.applySecret (p.wanted account robot.name robot.token)).Given
        fun _ => True) t

/-- The service account has been read, and lacks some links. -/
def Unlinked (links : SecretLinks) : Transcript Bridge → Prop :=
  Then (p.Supplied account role robot) ((ClusterCall.getServiceAccount p.ns account).Given
    fun (found : Option ServiceAccount) => ∃ existing, found = some existing ∧
      existing.linksWith (p.spec.pullSecretName account) = some links)

end Role

/-- An image stream of that name has been listed. -/
def Listed (name : String) : Transcript Bridge → Prop :=
  Then p.Founded ((ClusterCall.listImageStreams p.ns).Given
    fun (streams : List ImageStream) => ∃ stream ∈ streams, stream.metadata.displayName = name)

/-- The repository has been looked up, and is not there. -/
def Unhosted (name : String) : Transcript Bridge → Prop :=
  Then (p.Listed name) ((RegistryCall.getRepository p.organization name).Answered
    fun response => response.status = 403 ∨ response.status = 404)

/-- **What may be asked after what** has been heard, for one service account. -/
inductive RoleWarranted (account : String) (role : Registry.Role) :
    Question → Transcript Bridge → Prop
  | getRobot {t : Transcript Bridge} (founded : p.Founded t) :
    RoleWarranted account role (.registry (.getRobot p.organization account)) t
  | createRobot {t : Transcript Bridge} (absent : p.Unknown account t) :
    RoleWarranted account role (.registry (.createRobot p.organization account)) t
  | getPrototypes {t : Transcript Bridge} {robot : Registry.Robot}
    (known : p.Known account robot t) :
    RoleWarranted account role (.registry (.getPrototypes p.organization)) t
  | createPrototype {t : Transcript Bridge} {robot : Registry.Robot}
    (absent : p.Ungranted account role robot t) :
    RoleWarranted account role (.registry (.createPrototype p.organization robot.name role)) t
  | getSecret {t : Transcript Bridge} {robot : Registry.Robot}
    (granted : p.Granted account role robot t) :
    RoleWarranted account role (.cluster (.getSecret p.ns (p.spec.pullSecretName account))) t
  | applySecret {t : Transcript Bridge} {robot : Registry.Robot}
    (stale : p.Unsupplied account role robot t) :
    RoleWarranted account role (.cluster (.applySecret (p.wanted account robot.name robot.token))) t
  | getServiceAccount {t : Transcript Bridge} {robot : Registry.Robot}
    (supplied : p.Supplied account role robot t) :
    RoleWarranted account role (.cluster (.getServiceAccount p.ns account)) t
  | linkServiceAccount {t : Transcript Bridge} {robot : Registry.Robot} {links : SecretLinks}
    (absent : p.Unlinked account role robot links t) :
    RoleWarranted account role (.cluster (.linkServiceAccount p.ns account links)) t

/-- **What may be asked after what** has been heard. -/
inductive Warranted : Question → Transcript Bridge → Prop
  | getOrganization {t : Transcript Bridge} :
    Warranted (.registry (.getOrganization p.organization)) t
  | createOrganization {t : Transcript Bridge} (absent : p.Unfounded t) :
    Warranted (.registry (.createOrganization p.organization)) t
  | created {t : Transcript Bridge} (founded : p.Founded t) (note : String) :
    Warranted (.publish (Transition.organizationCreated.event p.object note)) t
  | role {t : Transcript Bridge} {account : String} {role : Registry.Role} {question : Question}
    (mem : (account, role) ∈ roles) (warranted : p.RoleWarranted account role question t) :
    Warranted question t
  | listImageStreams {t : Transcript Bridge} (founded : p.Founded t) (sound : t.Sound) :
    Warranted (.cluster (.listImageStreams p.ns)) t
  | getRepository {t : Transcript Bridge} {name : String} (listed : p.Listed name t) :
    Warranted (.registry (.getRepository p.organization name)) t
  | createRepository {t : Transcript Bridge} {name : String} (absent : p.Unhosted name t) :
    Warranted (.registry (.createRepository p.organization name)) t

variable {p} {t : Transcript Bridge} {account : String} {role : Registry.Role}
  {robot : Registry.Robot}

theorem founded_lasting : Lasting p.Founded :=
  .or (.then .always _) (.then (.then .always _) _)

/-! ## The organization -/

theorem organizationStep_warranted :
    p.organizationStep.Heeds p.Warranted (fun _ => p.Founded) t := by
  -- The answer says that the organization is there, or that it is not; any other loses the pass.
  refine .registry_bind .getOrganization (fun found status => ?_) fun found status => ?_
  · refine .ite (fun there => .pure (.inl (.snoc trivial ⟨found, rfl, there⟩))) fun _ => ?_
    refine .ite (fun absent => ?_) fun _ => .fail _
    have unfounded : p.Unfounded (t ++ [.registry (.getOrganization p.organization) (.ok found)]) :=
      .snoc trivial ⟨found, rfl, absent⟩
    refine .registry_bind (.createOrganization unfounded) (fun made status => ?_)
      fun made status => ?_
    · have founded : p.Founded (_ ++ [.registry (.createOrganization p.organization) (.ok made)]) :=
        .inr (.snoc unfounded ⟨made, rfl, by simpa [RegistryCall.telling] using status⟩)
      rw [if_neg (by simpa [RegistryCall.telling] using status)]
      exact .tell (.created founded _) (founded_lasting.grow founded _)
    · rw [if_pos (by simpa [RegistryCall.telling] using status)]
      exact ⟨_, rfl⟩
  · obtain ⟨noHit, noMiss⟩ := RegistryCall.notMem_telling_getOrganization.mp status
    rw [if_neg noHit, if_neg noMiss]
    exact ⟨_, rfl⟩

/-! ## One service account -/

theorem robotStep_warranted (founded : p.Founded t) :
    (p.robotStep account).Heeds (p.RoleWarranted account role) (p.Known account) t := by
  refine .registry_bind (.getRobot founded) (fun found status => ?_) fun found status => ?_
  · refine .ite (fun there => .of fun robot named => .inl ?_) fun _ => ?_
    · exact .snoc founded ⟨found, rfl, there, named⟩
    · refine .ite (fun absent => ?_) fun _ => .fail _
      have unknown : p.Unknown account (t ++ [.registry (.getRobot _ account) (.ok found)]) :=
        .snoc founded ⟨found, rfl, absent⟩
      refine .registry_bind (.createRobot unknown) (fun made status => ?_) fun made status => ?_
      · refine .ite (fun there => .of fun robot named => .inr ?_) fun _ => .fail _
        exact .snoc unknown ⟨made, rfl, there, named⟩
      · rw [if_neg (by simpa [RegistryCall.telling] using status)]
        exact ⟨_, rfl⟩
  · obtain ⟨noHit, noMiss⟩ := RegistryCall.notMem_telling_getRobot.mp status
    rw [if_neg noHit, if_neg noMiss]
    exact ⟨_, rfl⟩

theorem prototypeStep_warranted (known : p.Known account robot t) :
    (p.prototypeStep robot.name role).Heeds (p.RoleWarranted account role)
      (fun _ => p.Granted account role robot) t := by
  refine .registry_bind (.getPrototypes known) (fun found status => ?_) fun found status => ?_
  · have listed : found.status = 200 := by simpa [RegistryCall.telling] using status
    rw [if_neg (by simpa using listed)]
    refine .ite (fun grants => .pure (.inl ?_)) fun lacks => ?_
    · exact .snoc known ⟨found, rfl, listed, Option.map_eq_some_iff.mp grants⟩
    · have ungranted : p.Ungranted account role robot
          (t ++ [.registry (.getPrototypes p.organization) (.ok found)]) :=
        .snoc known ⟨found, rfl, listed, fun grants => lacks (Option.map_eq_some_iff.mpr grants)⟩
      refine .registry_bind (.createPrototype ungranted) (fun made status => ?_)
        fun made status => ?_
      · have made_status : made.status = 200 := by simpa [RegistryCall.telling] using status
        rw [if_neg (by simpa using made_status)]
        exact .pure (.inr (.snoc ungranted ⟨made, rfl, made_status⟩))
      · rw [if_pos (by simpa [RegistryCall.telling] using status)]
        exact ⟨_, rfl⟩
  · rw [if_pos (by simpa [RegistryCall.telling] using status)]
    exact ⟨_, rfl⟩

theorem pullSecretStep_warranted (granted : p.Granted account role robot t) :
    (p.pullSecretStep account robot).Heeds (p.RoleWarranted account role)
      (fun _ => p.Supplied account role robot) t := by
  refine .cluster_bind (.getSecret granted) fun found => ?_
  refine .ite (fun agrees => .pure (.inl ?_)) fun differs => ?_
  · exact .snoc granted ⟨found, rfl, Option.map_eq_some_iff.mp agrees⟩
  · have stale : p.Unsupplied account role robot _ := .snoc granted
      ⟨found, rfl, fun agrees => differs (Option.map_eq_some_iff.mpr agrees)⟩
    exact .cluster (.applySecret stale) fun value => .inr (.snoc stale ⟨value, rfl, trivial⟩)

theorem linkStep_warranted (supplied : p.Supplied account role robot t) :
    (p.linkStep account).Heeds (p.RoleWarranted account role) (fun _ _ => True) t := by
  refine .cluster_bind (.getServiceAccount supplied) fun found => ?_
  cases found with
  | none => exact .fail _
  | some existing =>
    dsimp only
    cases lacking : ServiceAccount.linksWith existing (p.spec.pullSecretName account) with
    | none => exact .pure trivial
    | some links =>
      exact .cluster (.linkServiceAccount (.snoc supplied ⟨some existing, rfl, existing, rfl,
        lacking⟩)) fun _ => trivial

theorem roleStep_warranted (founded : p.Founded t) :
    (p.roleStep account role).Heeds (p.RoleWarranted account role) (fun _ _ => True) t := by
  refine .bind (robotStep_warranted founded) fun robot _ known => ?_
  refine .bind (prototypeStep_warranted known) fun _ _ granted => ?_
  exact .bind (pullSecretStep_warranted granted) fun _ _ supplied => linkStep_warranted supplied

/-! ## Repositories -/

theorem repositoryStep_warranted {name : String} (listed : p.Listed name t) :
    (p.repositoryStep name).Heeds p.Warranted (fun _ _ => True) t := by
  refine .registry_bind (.getRepository listed) (fun found status => ?_) fun found status => ?_
  · refine .ite (fun _ => .pure trivial) fun _ => .ite (fun absent => ?_) fun _ => .fail _
    refine .registry_bind (.createRepository (.snoc listed ⟨found, rfl, absent⟩))
      (fun made status => ?_) fun made status => ?_
    · rw [if_neg (by simpa [RegistryCall.telling] using status)]
      exact .pure trivial
    · rw [if_pos (by simpa [RegistryCall.telling] using status)]
      exact ⟨_, rfl⟩
  · obtain ⟨noHit, noMiss⟩ := RegistryCall.notMem_telling_getRepository.mp status
    rw [if_neg noHit, if_neg noMiss]
    exact ⟨_, rfl⟩

theorem repositories_warranted (founded : p.Founded t) (sound : t.Sound) :
    p.repositories.Heeds p.Warranted (fun _ _ => True) t := by
  refine .cluster_bind (.listImageStreams founded sound) fun (streams : List ImageStream) => ?_
  -- The names that have been listed stay listed while the repositories are seen to.
  have listed : ∀ stream ∈ streams, p.Listed stream.metadata.displayName
      (t ++ [.cluster (.listImageStreams p.ns) (.ok streams)]) :=
    fun stream mem => .snoc founded ⟨streams, rfl, stream, mem, rfl⟩
  refine (Step.Heeds.all (fun t => ∀ stream ∈ streams, p.Listed stream.metadata.displayName t)
    (fun _ _ h stream mem => (h stream mem).grow _) ?_ listed).mono
    (fun _ _ => id) fun _ _ _ => trivial
  intro step mem after listed
  obtain ⟨stream, among, rfl⟩ := List.mem_map.mp mem
  exact repositoryStep_warranted (listed stream among)

/-! ## Service accounts that take turns -/

section Lasting

variable (p account role robot)

theorem unknown_lasting : Lasting (p.Unknown account) :=
  .then founded_lasting _

theorem known_lasting : Lasting (p.Known account robot) :=
  .or (.then founded_lasting _) (.then (unknown_lasting p account) _)

theorem ungranted_lasting : Lasting (p.Ungranted account role robot) :=
  .then (known_lasting p account robot) _

theorem granted_lasting : Lasting (p.Granted account role robot) :=
  .or (.then (known_lasting p account robot) _) (.then (ungranted_lasting p account role robot) _)

theorem unsupplied_lasting : Lasting (p.Unsupplied account role robot) :=
  .then (granted_lasting p account role robot) _

theorem supplied_lasting : Lasting (p.Supplied account role robot) :=
  .or (.then (granted_lasting p account role robot) _)
    (.then (unsupplied_lasting p account role robot) _)

theorem unlinked_lasting (links : SecretLinks) : Lasting (p.Unlinked account role robot links) :=
  .then (supplied_lasting p account role robot) _

/-- What may be asked for a service account may be asked when more has been heard. -/
theorem roleWarranted_lasting (question : Question) :
    Lasting (p.RoleWarranted account role question) := by
  intro t t' sub h
  cases h with
  | getRobot founded => exact .getRobot (founded_lasting sub founded)
  | createRobot absent => exact .createRobot (unknown_lasting p account sub absent)
  | getPrototypes known => exact .getPrototypes (known_lasting p account _ sub known)
  | createPrototype absent =>
    exact .createPrototype (ungranted_lasting p account role _ sub absent)
  | getSecret granted => exact .getSecret (granted_lasting p account role _ sub granted)
  | applySecret stale => exact .applySecret (unsupplied_lasting p account role _ sub stale)
  | getServiceAccount supplied =>
    exact .getServiceAccount (supplied_lasting p account role _ sub supplied)
  | linkServiceAccount absent =>
    exact .linkServiceAccount (unlinked_lasting p account role _ _ sub absent)

end Lasting

/-- The program of each service account that is provided for. -/
def roleProgram (p : Provisioning) (role : { role // role ∈ roles }) :
    Program Bridge (Except Failure Unit) :=
  (p.roleStep role.val.1 role.val.2).run

instance : Nonempty { role // role ∈ roles } :=
  ⟨⟨("builder", .write), by decide⟩⟩

/-- **Service accounts that take turns**, in whatever order, are each asked about only what is
warranted, and where something fails, one of them does. -/
theorem roles_woven {woven : Program Bridge ({ role // role ∈ roles } → Except Failure Unit)}
    (weaves : Program.Weaves p.roleProgram woven) (founded : p.Founded t) (sound : t.Sound) :
    woven.Always (.script Bridge)
      (fun question t => ∃ account role, (account, role) ∈ roles ∧
        p.RoleWarranted account role question t)
      (fun results after => (∃ e ∈ after, e.Fails) →
        ∃ role failure, results role = .error failure) t := by
  -- What one account is asked about is not forbidden by what is heard about another one.
  have more : ∀ question, Lasting fun t => ∃ account role, (account, role) ∈ roles ∧
      p.RoleWarranted account role question t := by
    rintro question t t' sub ⟨account, role, mem, warranted⟩
    exact ⟨account, role, mem, roleWarranted_lasting p account role question sub warranted⟩
  have own : ∀ role : { role // role ∈ roles }, (p.roleProgram role).Always (.script Bridge)
      (fun question t => ∃ account role, (account, role) ∈ roles ∧
        p.RoleWarranted account role question t)
      (fun result after => ¬ after.Sound → ∃ failure, result = .error failure) t := by
    rintro ⟨⟨account, role⟩, mem⟩
    refine Program.Always.mono (roleStep_warranted founded)
      (fun _ _ warranted => ⟨account, role, mem, warranted⟩) ?_
    rintro (failure | value) after h unsound
    · exact ⟨failure, rfl⟩
    · exact absurd (h.2 sound) unsound
  refine (weaves.always (fun question _ _ sub => more question sub) own).mono (fun _ _ => id) ?_
  rintro results after ⟨view, ended, whole⟩ ⟨e, mem, fails⟩
  obtain ⟨role, heard⟩ := whole e mem
  exact ⟨role, ended role fun clear => clear e heard fails⟩

end RegistryBridge.Provisioning
