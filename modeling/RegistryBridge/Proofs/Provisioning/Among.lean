import RegistryBridge.Proofs.Provisioning.Settled
import RegistryBridge.Proofs.Provisioning.Turns
import RegistryBridge.Proofs.World.Cell
/-!
# One service account among others

While one service account is looked after, the others have their turns. They leave its robot, its
pull secret and itself alone, and to the prototypes of the organization, which all of them share, they
only add. That is enough for the one to reach what it would reach alone, and to be lost only when something
fails or when it is not there.

Every question is due when it is asked: a robot is made where there is none, a pull secret is written
for a robot that is stored and has its role, and an account is linked when its pull secret is in
place.

## Main definitions

* `Provisioning.Due`: the questions for one service account, each with what holds by then.
* `Provisioning.Spares`: how far others move a world that one service account goes by.
* `Provisioning.Hindered`: why a service account may go without what it needs.
* `Provisioning.Delivered`: a service account has all it needs, with the robot that the registry has
  told of.

## Main results

* `Provisioning.Due.spares`: what is asked for one service account spares the others.
* `Provisioning.roleStep_among`: one service account has all it needs, whatever the others do.
* `Provisioning.fanOut_delivers`: and so do all of them, in whatever way they take turns.
-/

namespace RegistryBridge

/-- No call takes a prototype away, or moves one. -/
theorem World.prototypes_prefix {faults : Prop} {question : Question} {reply : question.Answer}
    {w after : World} (allowed : (World.conduct faults).allows question w reply after)
    (o : String) : w.registry.prototypesOf o <+: after.registry.prototypesOf o := by
  by_cases here : question.cell? = some (.prototypes o)
  · rcases World.eq_or_honest_of_allows allowed with rfl | ⟨_, honest⟩
    · exact List.prefix_rfl
    · cases question with
      | registry call =>
        obtain ⟨response, registry, honest, -, rfl⟩ := honest
        cases call with
        | createPrototype =>
          cases here
          obtain ⟨-, prototype, -, rfl⟩ := honest
          rw [World.prototypesOf_insert_self]
          exact List.prefix_append _ _
        | getPrototypes =>
          obtain ⟨-, rfl⟩ := honest
          exact List.prefix_rfl
        | _ => cases here
      | cluster call => cases call <;> cases here
      | connect | publish => cases here
  · have same : after.registry.prototypesOf o = w.registry.prototypesOf o :=
      World.content_of_allows allowed here
    exact same ▸ List.prefix_rfl

namespace Provisioning

variable (p : Provisioning)

/-! ## What belongs to one service account -/

/-- **The cells of one service account**: its robot, its pull secret and itself. -/
inductive Owns (account : String) : World.Cell → Prop
  | robot : Owns account (.robot (p.robotKey account))
  | secret : Owns account (.secret (p.secretKey account))
  | serviceAccount : Owns account (.serviceAccount (p.accountKey account))

/-- **How far others move a world** that one service account goes by: they leave its cells alone, and
to the prototypes of the organization they only add. -/
structure Spares (account : String) (w after : World) : Prop where
  own : ∀ cell, p.Owns account cell → after.content cell = w.content cell
  prototypes : w.registry.prototypesOf p.organization <+: after.registry.prototypesOf p.organization

/-- The robot, the role and the pull secret of a service account are in place. -/
def Backed (role : String × Registry.Role) (w : World) : Prop :=
  ∃ robot, p.HasRobot role.1 robot w ∧ p.HasGrant (p.named role.1 robot).name role.2 w ∧
    p.HasSecret role.1 (p.named role.1 robot) w

/-- **The questions for one service account**, each with what holds when it is asked. -/
inductive Due (role : String × Registry.Role) : Question → World → Prop
  | getRobot (w : World) : Due role (.registry (.getRobot p.organization role.1)) w
  | createRobot {w : World} (absent : w.registry.robots.get? (p.robotKey role.1) = none) :
    Due role (.registry (.createRobot p.organization role.1)) w
  | getPrototypes (w : World) : Due role (.registry (.getPrototypes p.organization)) w
  | createPrototype (robot : String) (w : World) :
    Due role (.registry (.createPrototype p.organization robot role.2)) w
  | getSecret (w : World) : Due role (.cluster (.getSecret p.ns (p.spec.pullSecretName role.1))) w
  | applySecret {robot : Registry.Robot} {w : World} (stored : p.HasRobot role.1 robot w)
    (granted : p.HasGrant (p.named role.1 robot).name role.2 w) :
    Due role (.cluster (.applySecret
      (p.wanted role.1 (p.named role.1 robot).name (p.named role.1 robot).token))) w
  | getServiceAccount (w : World) : Due role (.cluster (.getServiceAccount p.ns role.1)) w
  | linkServiceAccount {a : ServiceAccount} {links : SecretLinks} {w : World}
    (backed : p.Backed role w)
    (stored : w.cluster.serviceAccounts.get? (p.accountKey role.1) = some a)
    (lacks : a.linksWith (p.spec.pullSecretName role.1) = some links) :
    Due role (.cluster (.linkServiceAccount p.ns role.1 links)) w

variable {p} {role other : String × Registry.Role} {account : String} {w middle after : World}

theorem robotKey_injective (p : Provisioning) : Function.Injective p.robotKey := by
  intro account other h
  simpa [robotKey, robotName, String.append_assoc] using h

/-- A cell belongs to one service account at most. -/
theorem Owns.eq {account other : String} {cell : World.Cell} (h : p.Owns account cell)
    (h' : p.Owns other cell) : account = other := by
  generalize own : cell = cell' at h'
  cases h with
  | robot =>
    cases h' with
    | robot => exact p.robotKey_injective (World.Cell.robot.inj own)
    | secret | serviceAccount => cases own
  | secret =>
    cases h' with
    | secret => exact p.secretKey_injective (World.Cell.secret.inj own)
    | robot | serviceAccount => cases own
  | serviceAccount =>
    cases h' with
    | serviceAccount => exact p.accountKey_injective (World.Cell.serviceAccount.inj own)
    | robot | secret => cases own

namespace Spares

theorem refl (account : String) (w : World) : p.Spares account w w :=
  ⟨fun _ _ => rfl, List.prefix_rfl⟩

theorem trans (h : p.Spares account w middle) (h' : p.Spares account middle after) :
    p.Spares account w after :=
  ⟨fun cell owns => (h'.own cell owns).trans (h.own cell owns), h.prototypes.trans h'.prototypes⟩

/-- A question that concerns none of its cells spares a service account. -/
theorem of_elsewhere {faults : Prop} {question : Question} {reply : question.Answer}
    (allowed : (World.conduct faults).allows question w reply after)
    (elsewhere : ∀ cell, question.cell? = some cell → ¬ p.Owns account cell) :
    p.Spares account w after where
  own cell owns := World.content_of_allows allowed fun here => elsewhere cell here owns
  prototypes := World.prototypes_prefix allowed p.organization

theorem robot_eq (h : p.Spares account w after) :
    after.registry.robots.get? (p.robotKey account) =
      w.registry.robots.get? (p.robotKey account) :=
  h.own _ .robot

theorem account_eq (h : p.Spares account w after) :
    after.cluster.serviceAccounts.get? (p.accountKey account) =
      w.cluster.serviceAccounts.get? (p.accountKey account) :=
  h.own _ .serviceAccount

theorem hasRobot {robot : Registry.Robot} (h : p.Spares account w after)
    (has : p.HasRobot account robot w) : p.HasRobot account robot after :=
  h.robot_eq.trans has

theorem hasGrant {robot : String} {role : Registry.Role} (h : p.Spares account w after)
    (has : p.HasGrant robot role w) : p.HasGrant robot role after :=
  Registry.Prototypes.grants_of_prefix h.prototypes has

theorem hasSecret {robot : Registry.Robot} (h : p.Spares account w after)
    (has : p.HasSecret account robot w) : p.HasSecret account robot after := by
  obtain ⟨secret, stored, agrees⟩ := has
  exact ⟨secret, (h.own _ .secret).trans stored, agrees⟩

theorem hasLinks (h : p.Spares account w after) (has : p.HasLinks account w) :
    p.HasLinks account after := by
  obtain ⟨a, stored, linked⟩ := has
  exact ⟨a, h.account_eq.trans stored, linked⟩

theorem backed (role : String × Registry.Role) (h : p.Spares role.1 w after)
    (has : p.Backed role w) : p.Backed role after := by
  obtain ⟨robot, stored, granted, supplied⟩ := has
  exact ⟨robot, h.hasRobot stored, h.hasGrant granted, h.hasSecret supplied⟩

end Spares

/-! ## What is asked for one service account -/

namespace Due

variable {question : Question}

/-- What is asked for a service account concerns its own cells, or the prototypes. -/
theorem concerns (h : p.Due role question w) {cell : World.Cell}
    (here : question.cell? = some cell) :
    p.Owns role.1 cell ∨ cell = .prototypes p.organization := by
  cases h with
  | getRobot | createRobot =>
    cases here
    exact .inl .robot
  | getPrototypes | createPrototype =>
    cases here
    exact .inr rfl
  | getSecret =>
    cases here
    exact .inl .secret
  | applySecret =>
    cases here
    rw [p.key_wanted]
    exact .inl .secret
  | getServiceAccount | linkServiceAccount =>
    cases here
    exact .inl .serviceAccount

/-- **What is asked for one service account spares the others.** -/
theorem spares {faults : Prop} {reply : question.Answer} (h : p.Due role question w)
    (allowed : (World.conduct faults).allows question w reply after) (hne : role.1 ≠ account) :
    p.Spares account w after := by
  refine .of_elsewhere allowed fun cell here owns => ?_
  rcases h.concerns here with mine | rfl
  · exact hne (mine.eq owns)
  · cases owns

/-- What is due stays due while others have their turns. -/
theorem later (h : p.Due role question w) (moved : p.Spares role.1 w after) :
    p.Due role question after := by
  cases h with
  | getRobot => exact .getRobot after
  | createRobot absent => exact .createRobot (moved.robot_eq.trans absent)
  | getPrototypes => exact .getPrototypes after
  | createPrototype robot => exact .createPrototype robot after
  | getSecret => exact .getSecret after
  | applySecret stored granted =>
    exact .applySecret (moved.hasRobot stored) (moved.hasGrant granted)
  | getServiceAccount => exact .getServiceAccount after
  | linkServiceAccount backed stored lacks =>
    exact .linkServiceAccount (moved.backed role backed) (moved.account_eq.trans stored) lacks

end Due

/-! ## A world among others, with what has been heard -/

/-- How far a world moves, and what is heard, before a service account has its turn again. -/
def Meanwhile (p : Provisioning) (account : String) (s s' : World × Transcript Bridge) : Prop :=
  p.Spares account s.1 s'.1 ∧ s.2 <+: s'.2

theorem Meanwhile.of_steps {s s' : World × Transcript Bridge}
    (h : Relation.ReflTransGen (p.Meanwhile account) s s') : p.Meanwhile account s s' := by
  induction h with
  | refl => exact ⟨.refl account s.1, List.prefix_rfl⟩
  | tail _ last ih => exact ⟨ih.1.trans last.1, ih.2.trans last.2⟩

/-- Something is heard. -/
theorem Meanwhile.told (w : World) (t : Transcript Bridge) (e : Exchange Bridge) :
    p.Meanwhile account (w, t) (w, t ++ [e]) :=
  ⟨.refl account w, List.prefix_append t [e]⟩

/-- **The conduct of a world among others**: before every answer they may have had their turns. -/
def among (faults : Prop) (p : Provisioning) (account : String) :
    Conduct Bridge (World × Transcript Bridge) :=
  (World.conduct faults).recorded.disturbed (p.Meanwhile account)

/-- **Why a service account may go without what it needs**: something has failed, or there is no such
account. -/
def Hindered (faults : Prop) (p : Provisioning) (account : String) (w : World) : Prop :=
  faults ∨ w.cluster.serviceAccounts.get? (p.accountKey account) = none

variable {faults : Prop}

/-- What hinders a service account hinders it while others have their turns. -/
theorem Hindered.later (h : p.Hindered faults account w) (moved : p.Spares account w after) :
    p.Hindered faults account after :=
  h.imp_right moved.account_eq.trans

section Calls

variable {s : World × Transcript Bridge} {asked : Question → World × Transcript Bridge → Prop}

/-- A call of the registry among others. -/
theorem always_registry_among {call : RegistryCall} {failure : RegistryError → Failure}
    {ends : Registry.Response call.Value → World × Transcript Bridge → Prop}
    (ask : asked (.registry call) s)
    (honest : ∀ w t response registry, p.Meanwhile account s (w, t) →
      w.registry.Honest call response registry →
        ends response ({ w with registry }, t ++ [.registry call (.ok response)]))
    (unclear : faults → ∀ response after, response.status ∉ call.telling → ends response after) :
    (Step.registry call failure).Always (p.among faults account) asked ends
      (fun _ s => p.Hindered faults account s.1) s := by
  refine (Step.always_registry call failure).mpr ⟨ask, ?_⟩
  rintro reply ⟨after, longer⟩ ⟨⟨w, t⟩, steps, allowed, rfl⟩
  rcases allowed with ⟨response, registry, answered, rfl, rfl⟩ | ⟨hf, fails, -⟩
  · exact honest w t response registry (Meanwhile.of_steps steps) answered
  · rcases fails with ⟨e, rfl⟩ | ⟨response, rfl, status⟩
    · exact .inl hf
    · exact unclear hf response _ status

/-- A call of the cluster among others. -/
theorem always_cluster_among (call : ClusterCall) {failure : OperationError → Failure}
    {ends : call.Value → World × Transcript Bridge → Prop} (ask : asked (.cluster call) s)
    (honest : ∀ w t, p.Meanwhile account s (w, t) →
      ends (w.cluster.answer call).1 ({ w with cluster := (w.cluster.answer call).2 },
        t ++ [.cluster call (.ok (w.cluster.answer call).1)])) :
    (Step.cluster call failure).Always (p.among faults account) asked ends
      (fun _ s => p.Hindered faults account s.1) s := by
  refine (Step.always_cluster call failure).mpr ⟨ask, ?_⟩
  rintro reply ⟨after, longer⟩ ⟨⟨w, t⟩, steps, allowed, rfl⟩
  rcases allowed with ⟨rfl, rfl⟩ | ⟨hf, ⟨e, rfl⟩, -⟩
  · exact honest w t (Meanwhile.of_steps steps)
  · exact .inl hf

end Calls

/-! ## What has been reached for a service account -/

/-- **The registry has told of a robot**: it was found, or it has been made. -/
def Returned (p : Provisioning) (account : String) (robot : Registry.Robot)
    (t : Transcript Bridge) : Prop :=
  (∃ e ∈ t, (RegistryCall.getRobot p.organization account).Answered (· = ⟨200, some robot⟩) e) ∨
    ∃ e ∈ t, (RegistryCall.createRobot p.organization account).Answered (· = ⟨201, some robot⟩) e

/-- The robot that a step gives is the one that the registry has told of, and stores. -/
def Held (p : Provisioning) (account : String) (robot : Registry.Robot)
    (s : World × Transcript Bridge) : Prop :=
  ∃ stored, p.Returned account stored s.2 ∧ p.HasRobot account stored s.1 ∧
    robot = p.named account stored

/-- **A service account has all it needs**, with the robot that the registry has told of. -/
def Delivered (p : Provisioning) (role : String × Registry.Role) (s : World × Transcript Bridge) :
    Prop :=
  ∃ robot, p.Returned role.1 robot s.2 ∧ p.HasRobot role.1 robot s.1 ∧
    p.HasGrant (p.named role.1 robot).name role.2 s.1 ∧
    p.HasSecret role.1 (p.named role.1 robot) s.1 ∧ p.HasLinks role.1 s.1

section Reached

variable {robot : Registry.Robot} {t t' : Transcript Bridge} {s s' : World × Transcript Bridge}

theorem Returned.longer (h : p.Returned account robot t) (more : t <+: t') :
    p.Returned account robot t' :=
  h.imp (fun ⟨e, mem, told⟩ => ⟨e, more.subset mem, told⟩)
    fun ⟨e, mem, told⟩ => ⟨e, more.subset mem, told⟩

theorem Held.later (h : p.Held account robot s) (meanwhile : p.Meanwhile account s s') :
    p.Held account robot s' := by
  obtain ⟨stored, returned, has, same⟩ := h
  exact ⟨stored, returned.longer meanwhile.2, meanwhile.1.hasRobot has, same⟩

theorem Delivered.later (h : p.Delivered role s) (meanwhile : p.Meanwhile role.1 s s') :
    p.Delivered role s' := by
  obtain ⟨robot, returned, stored, granted, supplied, linked⟩ := h
  obtain ⟨moved, more⟩ := meanwhile
  exact ⟨robot, returned.longer more, moved.hasRobot stored, moved.hasGrant granted,
    moved.hasSecret supplied, moved.hasLinks linked⟩

end Reached

/-! ## The steps for one service account -/

section Steps

variable {s : World × Transcript Bridge} {robot : Registry.Robot}

theorem always_robotOf {σ : Type} {c : Conduct Bridge σ} {asked : Question → σ → Prop}
    {ends : Registry.Robot → σ → Prop} {lost : Failure → σ → Prop} {state : σ}
    (h : ends (p.named account robot) state) :
    (Step.of (p.robotOf account (some robot))).Always c asked ends lost state := by
  rw [robotOf_some]
  exact h

/-- **The robot is there at the end**, and it is the one that the step gives. -/
theorem robotStep_among :
    (p.robotStep role.1).Always (p.among faults role.1) (fun question s => p.Due role question s.1)
      (fun robot s => p.Held role.1 robot s) (fun _ s => p.Hindered faults role.1 s.1) s := by
  unfold robotStep
  rw [Step.always_bind]
  refine always_registry_among (.getRobot s.1) ?honest ?unclear
  case honest =>
    rintro w t response registry - ⟨answered, rfl⟩
    cases there : w.registry.robots.get? (p.robotKey role.1) with
    | some stored =>
      rw [show w.registry.robots.get? (robotName p.organization role.1) = _ from there] at answered
      obtain rfl := answered
      rw [if_pos rfl]
      exact always_robotOf ⟨stored, .inl ⟨_, by simp, _, rfl, rfl⟩, there, rfl⟩
    | none =>
      -- The robot is made under a key that is free, so no other robot's token is lost.
      rw [show w.registry.robots.get? (robotName p.organization role.1) = _ from there] at answered
      have h200 : response.status ≠ 200 := by rcases answered with h | h <;> simp [h]
      rw [if_neg h200, if_pos answered, Step.always_bind]
      refine always_registry_among (.createRobot there) ?_ fun hf made _ status => ?_
      · rintro w' t' made registry' - ⟨stored, rfl, rfl⟩
        rw [if_pos rfl]
        exact always_robotOf ⟨stored, .inr ⟨_, by simp, _, rfl, rfl⟩, Table.get?_insert_self _ _ _, rfl⟩
      · rw [if_neg (by simpa [RegistryCall.telling] using status), Step.always_fail]
        exact .inl hf
  case unclear =>
    rintro hf response - status
    obtain ⟨noHit, noMiss⟩ := RegistryCall.notMem_telling_getRobot.mp status
    rw [if_neg noHit, if_neg noMiss, Step.always_fail]
    exact .inl hf

/-- **The robot has its role at the end.** -/
theorem prototypeStep_among (held : p.Held role.1 robot s) :
    (p.prototypeStep robot.name role.2).Always (p.among faults role.1)
      (fun question s => p.Due role question s.1)
      (fun _ s => p.Held role.1 robot s ∧ p.HasGrant robot.name role.2 s.1)
      (fun _ s => p.Hindered faults role.1 s.1) s := by
  unfold prototypeStep
  rw [Step.always_bind]
  refine always_registry_among (.getPrototypes s.1) ?honest ?unclear
  case honest =>
    rintro w t response registry meanwhile ⟨rfl, rfl⟩
    have held₁ : ∀ e, p.Held role.1 robot (w, t ++ [e]) := fun e =>
      (held.later meanwhile).later (.told w t e)
    refine Step.Always.ite (fun h => absurd rfl h) fun _ => Step.Always.ite (fun granted => ?_)
      fun _ => ?_
    · exact ⟨held₁ _, Option.some.inj granted⟩
    · rw [Step.always_bind]
      refine always_registry_among (.createPrototype robot.name _) ?_ fun hf made _ status => ?_
      · rintro w' t' made registry' meanwhile' ⟨hmade, prototype, gives, rfl⟩
        obtain ⟨stored, returned, has, same⟩ := (held₁ _).later meanwhile'
        rw [if_neg (by simpa using hmade)]
        refine ⟨⟨stored, returned.longer (List.prefix_append t' _), has, same⟩, ?_⟩
        simp [HasGrant, World.prototypesOf_insert_self, Registry.Prototypes.grants, gives]
      · rw [if_pos (by simpa [RegistryCall.telling] using status), Step.always_fail]
        exact .inl hf
  case unclear =>
    rintro hf response - status
    rw [if_pos (by simpa [RegistryCall.telling] using status), Step.always_fail]
    exact .inl hf

/-- **The pull secret holds the robot's token at the end.** -/
theorem pullSecretStep_among (held : p.Held role.1 robot s)
    (granted : p.HasGrant robot.name role.2 s.1) :
    (p.pullSecretStep role.1 robot).Always (p.among faults role.1)
      (fun question s => p.Due role question s.1)
      (fun _ s => p.Held role.1 robot s ∧ p.HasGrant robot.name role.2 s.1 ∧
        p.HasSecret role.1 robot s.1) (fun _ s => p.Hindered faults role.1 s.1) s := by
  unfold pullSecretStep
  rw [Step.always_bind]
  refine always_cluster_among _ (.getSecret s.1) fun w t meanwhile => ?_
  have held₁ : ∀ e, p.Held role.1 robot (w, t ++ [e]) := fun e =>
    (held.later meanwhile).later (.told w t e)
  have granted₁ : p.HasGrant robot.name role.2 w := meanwhile.1.hasGrant granted
  -- A secret that agrees is left alone; any other one, or none, is replaced as a whole.
  refine Step.Always.ite (fun agrees => ?_) fun _ => ?_
  · obtain ⟨secret, stored, agrees⟩ := Option.map_eq_some_iff.mp agrees
    exact ⟨held₁ _, granted₁, secret, stored, agrees⟩
  · have due : p.Due role
        (.cluster (.applySecret (p.wanted role.1 robot.name robot.token))) w := by
      obtain ⟨stored, -, has, rfl⟩ := held.later meanwhile
      exact .applySecret has granted₁
    refine always_cluster_among (.applySecret (p.wanted role.1 robot.name robot.token)) due
      fun w' t' meanwhile' => ?_
    obtain ⟨stored, returned, has, same⟩ := (held₁ _).later meanwhile'
    refine ⟨⟨stored, returned.longer (List.prefix_append t' _), has, same⟩,
      meanwhile'.1.hasGrant granted₁, p.wanted role.1 robot.name robot.token, ?_,
      Secret.agrees_iff.mpr ⟨rfl, rfl⟩⟩
    rw [← p.key_wanted role.1 robot.name robot.token]
    exact Table.get?_insert_self _ _ _

/-- **The service account is linked at the end**, unless it is missing. -/
theorem linkStep_among (held : p.Held role.1 robot s)
    (granted : p.HasGrant robot.name role.2 s.1) (supplied : p.HasSecret role.1 robot s.1) :
    (p.linkStep role.1).Always (p.among faults role.1) (fun question s => p.Due role question s.1)
      (fun _ s => p.Delivered role s) (fun _ s => p.Hindered faults role.1 s.1) s := by
  obtain ⟨stored, returned, has, rfl⟩ := held
  unfold linkStep
  rw [Step.always_bind]
  refine always_cluster_among _ (.getServiceAccount s.1) fun w t meanwhile => ?_
  obtain ⟨moved, more⟩ := meanwhile
  have returned₁ : ∀ e, p.Returned role.1 stored (t ++ [e]) := fun e =>
    returned.longer (more.trans (List.prefix_append t [e]))
  have backed : p.Backed role w :=
    ⟨stored, moved.hasRobot has, moved.hasGrant granted, moved.hasSecret supplied⟩
  cases found : (w.cluster.answer (.getServiceAccount p.ns role.1)).1 with
  | none => exact .inr found
  | some a =>
    cases lacks : ServiceAccount.linksWith a (p.spec.pullSecretName role.1) with
    | none =>
      simp only [lacks]
      exact ⟨stored, returned₁ _, moved.hasRobot has, moved.hasGrant granted,
        moved.hasSecret supplied, a, found, ServiceAccount.linksWith_eq_none_iff.mp lacks⟩
    | some links =>
      simp only [lacks]
      have due : p.Due role (.cluster (.linkServiceAccount p.ns role.1 links)) w :=
        .linkServiceAccount backed found lacks
      refine always_cluster_among (.linkServiceAccount p.ns role.1 links) due
        fun w' t' meanwhile' => ?_
      obtain ⟨moved', more'⟩ := meanwhile'
      -- The account is still the one that was read, so the links are made from what it has.
      have still : w'.cluster.serviceAccounts.get? (qualified p.ns role.1) = some a :=
        moved'.account_eq.trans found
      have onward := moved.trans moved'
      refine ⟨stored, (returned₁ _).longer (more'.trans (List.prefix_append t' _)),
        onward.hasRobot has, onward.hasGrant granted, onward.hasSecret supplied,
        a.withLinks links, ?_, ServiceAccount.linked_of_linksWith lacks⟩
      simp [ClusterStore.answer, ClusterStore.linked, accountKey, still]

/-- **One service account has all it needs**, whatever the others do meanwhile, and asks only what is
due. -/
theorem roleStep_among :
    (p.roleStep role.1 role.2).Always (p.among faults role.1)
      (fun question s => p.Due role question s.1) (fun _ s => p.Delivered role s)
      (fun _ s => p.Hindered faults role.1 s.1) s := by
  unfold roleStep
  rw [Step.always_bind]
  refine robotStep_among.mono (fun _ _ => id) (fun robot s₁ held => ?_) fun _ _ => id
  rw [Step.always_bind]
  refine (prototypeStep_among held).mono (fun _ _ => id) ?_ fun _ _ => id
  rintro - s₂ ⟨held, granted⟩
  rw [Step.always_bind]
  refine (pullSecretStep_among held granted).mono (fun _ _ => id) ?_ fun _ _ => id
  rintro - s₃ ⟨held, granted, supplied⟩
  exact linkStep_among held granted supplied

/-- **All service accounts have all they need**, in whatever way they take turns, if the fan-out
succeeds; and only what is due is asked. It is lost only if one of them is hindered. -/
theorem fanOut_delivers (faults : Prop)
    {woven : Program Bridge ({ role // role ∈ roles } → Except Failure Unit)}
    (weaves : Program.Weaves p.roleProgram woven) :
    (fanOut woven).Always (World.conduct faults).recorded
      (fun question s => ∃ role ∈ roles, p.Due role question s.1)
      (fun _ s => ∀ role ∈ roles, p.Delivered role s)
      (fun _ s => ∃ role ∈ roles, p.Hindered faults role.1 s.1) s := by
  have run := weaves.always_disturbed (fun role => p.Meanwhile role.val.1)
    (fun role question s => p.Due role.val question s.1)
    (fun role result s => (∀ value, result = .ok value → p.Delivered role.val s) ∧
      ∀ failure, result = .error failure → p.Hindered faults role.val.1 s.1) ?spares
    (fun role question s s' meanwhile due => due.later meanwhile.1) ?lasts
    fun role => (roleStep_among (s := s)).result
  case spares =>
    rintro i j hne question s reply after due ⟨allowed, heard⟩
    exact ⟨due.spares allowed (account_ne hne), heard ▸ List.prefix_append _ _⟩
  case lasts =>
    rintro role result s s' meanwhile ⟨delivered, hindered⟩
    exact ⟨fun value fine => (delivered value fine).later meanwhile,
      fun failure failed => (hindered failure failed).later meanwhile.1⟩
  refine (fanOut_always run).mono ?_ (fun _ s h role mem => h ⟨role, mem⟩) ?_
  · rintro question s ⟨role, due⟩
    exact ⟨role.val, role.property, due⟩
  · rintro _ s ⟨role, hindered⟩
    exact ⟨role.val, role.property, hindered⟩

end Steps

end Provisioning

end RegistryBridge
