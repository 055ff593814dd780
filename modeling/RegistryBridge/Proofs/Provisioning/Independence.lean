import Mathlib.Data.List.Nodup
import RegistryBridge.Proofs.Pass.Steady
import RegistryBridge.Proofs.Provisioning.Among
import RegistryBridge.Proofs.Provisioning.Convergence
import RegistryBridge.Proofs.World.Habits
/-!
# Service accounts do not notice one another

Each service account has cells of its own. The one thing that all of them read and write is the list
of prototypes, and there each looks only for those of its own robot. So whatever the others have added
there, it goes on as it would alone, and it makes no difference in what order they take turns.

## Main definitions

* `RegistryStore.prototypesFor`: the prototypes of one delegate.
* `Provisioning.Alike`: worlds that a service account cannot tell apart.
* `Provisioning.Within`: how far a world moves for one service account.

## Main results

* `Provisioning.roleStep_steady`: a service account goes by what such worlds agree in.
* `Provisioning.roleStep_gains`: a service account adds one prototype at most.
* `Provisioning.fan_out_independent`: the fan-out does not hang on the order of the calls.
-/

namespace RegistryBridge

open Registry (Prototype Prototypes Robot Role)

/-! ## The prototypes of one delegate -/

/-- **The prototypes of one delegate** in an organization. -/
def RegistryStore.prototypesFor (store : RegistryStore) (o name : String) : List Prototype :=
  (store.prototypesOf o).filter fun prototype => prototype.delegate.name == name

theorem Registry.Prototype.name_of_gives {prototype : Prototype} {robot : String} {role : Role}
    (h : prototype.gives robot role = true) : prototype.delegate.name = robot := by
  simp only [gives, Bool.and_eq_true, beq_iff_eq] at h
  exact h.2

/-- **Whether a robot has a role** is told by the prototypes of that robot. -/
theorem Registry.Prototypes.grants_eq_any_filter (list : List Prototype) (robot : String)
    (role : Role) :
    (⟨list⟩ : Prototypes).grants robot role =
      (list.filter fun prototype => prototype.delegate.name == robot).any
        fun prototype => prototype.gives robot role := by
  rw [grants, List.any_filter]
  refine congrArg (List.any list) (funext fun prototype => ?_)
  cases given : prototype.gives robot role with
  | true => simp [prototype.name_of_gives given]
  | false => simp

namespace Provisioning

variable {p : Provisioning} {h : Habits} {m : Mishaps} {account : String} {w v after : World}

/-- A robot that is stored for a service account goes by the name that it must have. -/
def Named (p : Provisioning) (account : String) (w : World) : Prop :=
  ∀ robot, p.HasRobot account robot w → (p.named account robot).name = p.robotKey account

/-- **Worlds that a service account cannot tell apart**: they agree in its own cells and in the
prototypes of its robot. -/
structure Alike (p : Provisioning) (account : String) (w v : World) : Prop where
  own : ∀ cell, p.Owns account cell → w.content cell = v.content cell
  prototypes : w.registry.prototypesFor p.organization (p.robotKey account) =
    v.registry.prototypesFor p.organization (p.robotKey account)
  named : p.Named account w

/-- **How far a world moves for one service account**: its own cells, and prototypes of its robot that
are added behind all others. -/
structure Within (p : Provisioning) (account : String) (w after : World) : Prop where
  cells : ∀ cell, ¬ p.Owns account cell → cell ≠ .prototypes p.organization →
    after.content cell = w.content cell
  others : ∀ name, name ≠ p.robotKey account →
    after.registry.prototypesFor p.organization name = w.registry.prototypesFor p.organization name
  added : w.registry.prototypesOf p.organization <+: after.registry.prototypesOf p.organization

theorem Alike.refl (named : p.Named account w) : p.Alike account w w :=
  ⟨fun _ _ => rfl, rfl, named⟩

theorem named_congr (same : w.content (.robot (p.robotKey account)) =
    v.content (.robot (p.robotKey account))) (named : p.Named account v) : p.Named account w :=
  fun robot stored => named robot ((show v.registry.robots.get? (p.robotKey account) =
    w.registry.robots.get? (p.robotKey account) from same.symm).trans stored)

/-- **Another service account's moves are not noticed.** -/
theorem Within.unnoticed {other : String} (moved : p.Within other w after) (hne : other ≠ account)
    (alike : p.Alike account w v) : p.Alike account after v := by
  -- The list of prototypes belongs to nobody, so it is spoken of by name below.
  have own : ∀ cell, p.Owns account cell → after.content cell = w.content cell := by
    intro cell owns
    refine moved.cells cell (fun owns' => hne (owns'.eq owns)) ?_
    rintro rfl
    cases owns
  refine ⟨fun cell owns => (own cell owns).trans (alike.own cell owns), ?_,
    named_congr (own _ .robot) alike.named⟩
  exact (moved.others _ fun same => hne (p.robotKey_injective same).symm).trans alike.prototypes

/-! ## Questions about its own cells -/

/-- A question that concerns one of a service account's own cells. -/
def Private (p : Provisioning) (account : String) (question : Question) : Prop :=
  ∃ cell, question.cell? = some cell ∧ p.Owns account cell

/-- Whatever is answered to it, a private question is about no prototypes. -/
theorem Private.prototypesOf_eq {faults : Prop} {question : Question} {reply : question.Answer}
    (mine : p.Private account question)
    (allowed : (World.conduct faults).allows question w reply after) (o : String) :
    after.registry.prototypesOf o = w.registry.prototypesOf o := by
  obtain ⟨cell, here, owns⟩ := mine
  show after.content (.prototypes o) = w.content (.prototypes o)
  refine World.content_of_allows allowed ?_
  rw [here]
  rintro ⟨⟩
  cases owns

/-- A robot that is made is named after its organization. -/
theorem named_answerBy (question : Question) (named : p.Named account w) :
    p.Named account (w.answerBy h m question).2 := by
  have elsewhere : ∀ (question : Question), question.cell? ≠ some (.robot (p.robotKey account)) →
      p.Named account (w.answerBy h m question).2 := fun question elsewhere =>
    named_congr (World.content_of_allows (World.allows_answerBy h m question w) elsewhere) named
  by_cases here : question.cell? = some (.robot (p.robotKey account))
  · -- Of the questions about this robot, only its creation stores anything.
    unfold World.answerBy
    cases m.reply? question with
    | some reply => exact named
    | none =>
      cases question with
      | registry call =>
        cases call with
        | createRobot o short =>
          have key : robotName o short = p.robotKey account :=
            World.Cell.robot.inj (Option.some.inj here)
          intro robot stored
          have made : some (h.robot o short) = some robot := by
            rw [← stored, ← key]
            exact (Table.get?_insert_self _ _ _).symm
          obtain rfl := Option.some.inj made
          unfold Provisioning.named
          split
          · rfl
          · exact (h.named o short).trans key
        | getRobot => exact named
        | _ => cases here
      | cluster call => cases call <;> cases here
      | connect | publish => cases here
  · exact elsewhere question here

/-- **A private question** is answered alike in worlds that the service account cannot tell apart. -/
theorem Private.steady {question : Question} (mine : p.Private account question)
    (alike : p.Alike account w v) :
    p.Within account w (w.answerBy h m question).2 ∧
      p.Alike account (w.answerBy h m question).2 (v.answerBy h m question).2 ∧
        (w.answerBy h m question).1 = (v.answerBy h m question).1 := by
  have allowed := World.allows_answerBy h m question w
  have prototypes := fun w => mine.prototypesOf_eq (World.allows_answerBy h m question w)
  obtain ⟨cell, here, owns⟩ := mine
  have inside : ∀ cell, question.cell? = some cell → p.Owns account cell := by
    intro other same
    rw [here] at same
    exact Option.some.inj same ▸ owns
  obtain ⟨answered, own⟩ := World.answerBy_agree (h := h) (m := m) inside alike.own
  refine ⟨⟨fun other foreign _ => ?_, fun name _ => ?_, ?_⟩, ⟨own, ?_, ?_⟩, answered⟩
  · refine World.content_of_allows allowed fun same => foreign (inside other same)
  · simp only [RegistryStore.prototypesFor, prototypes]
  · exact prototypes w p.organization ▸ List.prefix_rfl
  · simp only [RegistryStore.prototypesFor, prototypes]
    exact alike.prototypes
  · exact named_answerBy question alike.named

/-! ## The steps for one service account -/

theorem robotStep_steady :
    (p.robotStep account).Steady (World.answerBy h m) (p.Alike account) (p.Within account)
      fun robot => robot.name = p.robotKey account := by
  have robots : ∀ {call : RegistryCall}, call.cell? = some (.robot (p.robotKey account)) →
      p.Private account (.registry call) := fun here => ⟨_, here, .robot⟩
  have named_of : ∀ {body robot}, (∀ stored, body = some stored →
      (p.named account stored).name = p.robotKey account) →
      p.robotOf account body = .ok robot → robot.name = p.robotKey account := by
    rintro (_ | stored) robot told given
    · cases given
    · rw [robotOf_some] at given
      exact Except.ok.inj given ▸ told stored rfl
  have found_named : ∀ w v, p.Alike account w v →
      ∀ response : Registry.Response Robot,
        (w.answerBy h m (.registry (.getRobot p.organization account))).1 = .ok response →
          response.status = 200 → ∀ stored, response.body = some stored →
            (p.named account stored).name = p.robotKey account := by
    intro w v alike response given status stored body
    have same := World.answerBy_of_telling given (by simp [RegistryCall.telling, status])
    cases there : w.registry.robots.get? (robotName p.organization account) with
    | some robot =>
      have told : (w.registry.answerBy h (.getRobot p.organization account)).1 =
          ⟨200, some robot⟩ := by
        simp only [RegistryStore.answerBy, there]
      rw [same, told] at body
      exact Option.some.inj body ▸ alike.named robot there
    | none =>
      have told : (w.registry.answerBy h (.getRobot p.organization account)).1 =
          ⟨h.noRobot p.organization account, none⟩ := by
        simp only [RegistryStore.answerBy, there]
      rw [same, told] at body
      cases body
  have made_named : ∀ w v, p.Alike account w v →
      ∀ response : Registry.Response Robot,
        (w.answerBy h m (.registry (.createRobot p.organization account))).1 = .ok response →
          response.status = 201 → ∀ stored, response.body = some stored →
            (p.named account stored).name = p.robotKey account := by
    intro w v alike response given status stored body
    have same := World.answerBy_of_telling given (by simp [RegistryCall.telling, status])
    subst same
    obtain rfl := Option.some.inj body
    unfold Provisioning.named
    split
    · rfl
    · exact h.named p.organization account
  unfold robotStep
  refine .bind (.registry (fun _ _ => (robots rfl).steady) found_named) fun found told => ?_
  refine .ite (fun status => .of fun robot => named_of (told status)) fun _ => ?_
  refine .ite (fun _ => ?_) fun _ => .fail _
  refine .bind (.registry (fun _ _ => (robots rfl).steady) made_named) fun made told => ?_
  exact .ite (fun status => .of fun robot => named_of (told status)) fun _ => .fail _

/-- A prototype for its robot is added to those of its robot, and to no others. -/
theorem createPrototype_steady {role : Role} (alike : p.Alike account w v) :
    p.Within account w (w.answerBy h m
        (.registry (.createPrototype p.organization (p.robotKey account) role))).2 ∧
      p.Alike account
        (w.answerBy h m (.registry (.createPrototype p.organization (p.robotKey account) role))).2
        (v.answerBy h m (.registry (.createPrototype p.organization (p.robotKey account) role))).2 ∧
      (w.answerBy h m (.registry (.createPrototype p.organization (p.robotKey account) role))).1 =
        (v.answerBy h m (.registry (.createPrototype p.organization (p.robotKey account) role))).1 := by
  generalize asked : Question.registry
    (.createPrototype p.organization (p.robotKey account) role) = question
  have here : question.cell? = some (.prototypes p.organization) := by rw [← asked]; rfl
  have cells : ∀ (w : World) (cell : World.Cell), cell ≠ .prototypes p.organization →
      (w.answerBy h m question).2.content cell = w.content cell := by
    intro w cell foreign
    refine World.content_of_allows (World.allows_answerBy h m question w) fun same => ?_
    rw [here] at same
    exact foreign (Option.some.inj same).symm
  have own : ∀ (w : World) (cell : World.Cell), p.Owns account cell →
      (w.answerBy h m question).2.content cell = w.content cell := by
    intro w cell owns
    refine cells w cell ?_
    rintro rfl
    cases owns
  have added : ∃ made : List Prototype, (∀ prototype ∈ made,
      prototype.delegate.name = p.robotKey account) ∧ ∀ w : World,
        (w.answerBy h m question).2.registry.prototypesOf p.organization =
          w.registry.prototypesOf p.organization ++ made := by
    subst asked
    unfold World.answerBy
    cases m.reply? _ with
    | some reply => exact ⟨[], by simp, by simp⟩
    | none =>
      refine ⟨[h.prototype p.organization (p.robotKey account) role], ?_, fun w => ?_⟩
      · simpa using Prototype.name_of_gives (h.gives p.organization (p.robotKey account) role)
      · exact World.prototypesOf_insert_self _
  have answered : (w.answerBy h m question).1 = (v.answerBy h m question).1 := by
    subst asked
    unfold World.answerBy
    cases m.reply? _ with
    | some reply => rfl
    | none => rfl
  obtain ⟨made, about, grown⟩ := added
  -- The same is added in both worlds, and all of it is about this robot.
  refine ⟨⟨fun cell _ foreign => cells w cell foreign, fun name hne => ?_, ?_⟩,
    ⟨fun cell owns => ?_, ?_, named_answerBy question alike.named⟩, answered⟩
  · have none_for : made.filter (fun prototype => prototype.delegate.name == name) = [] := by
      refine List.filter_eq_nil_iff.mpr fun prototype mem => ?_
      simpa [about prototype mem] using hne.symm
    simp only [RegistryStore.prototypesFor, grown, List.filter_append, none_for, List.append_nil]
  · rw [grown]
    exact List.prefix_append _ _
  · rw [own w cell owns, own v cell owns, alike.own cell owns]
  · have same := alike.prototypes
    simp only [RegistryStore.prototypesFor] at same
    simp only [RegistryStore.prototypesFor, grown, List.filter_append, same]

theorem prototypeStep_steady {role : Role} :
    (p.prototypeStep (p.robotKey account) role).Steady (World.answerBy h m) (p.Alike account)
      (p.Within account) fun _ => True := by
  unfold prototypeStep
  refine .registry_bind (fun w v alike => ?_) fun found => ?_
  · -- The lists may differ, but not in what they say of this robot.
    have quiet : ∀ w : World,
        (w.answerBy h m (.registry (.getPrototypes p.organization))).2 = w := fun w =>
      World.eq_of_quiet (World.allows_answerBy h m _ w) rfl
    rw [quiet, quiet]
    refine ⟨⟨fun _ _ _ => rfl, fun _ _ => rfl, List.prefix_rfl⟩, alike, ?_⟩
    unfold World.answerBy
    cases m.reply? (.registry (.getPrototypes p.organization)) with
    | some reply => exact .inl rfl
    | none =>
      refine .inr ⟨⟨200, some ⟨w.registry.prototypesOf p.organization⟩⟩,
        ⟨200, some ⟨v.registry.prototypesOf p.organization⟩⟩, rfl, rfl, ?_⟩
      have same : (⟨w.registry.prototypesOf p.organization⟩ : Prototypes).grants
            (p.robotKey account) role =
          (⟨v.registry.prototypesOf p.organization⟩ : Prototypes).grants
            (p.robotKey account) role := by
        rw [Prototypes.grants_eq_any_filter, Prototypes.grants_eq_any_filter]
        exact congrArg (List.any · _) alike.prototypes
      exact if_congr Iff.rfl rfl (if_congr (iff_of_eq (congrArg (some · = some true) same)) rfl rfl)
  · refine .ite (fun _ => .fail _) fun _ => .ite (fun _ => .pure trivial) fun _ => ?_
    refine .bind (.registry (fun _ _ => createPrototype_steady) fun _ _ _ _ _ => trivial) ?_
    exact fun made _ => .ite (fun _ => .fail _) fun _ => .pure trivial

theorem pullSecretStep_private (robot : Robot) :
    (p.pullSecretStep account robot).Only (p.Private account) := by
  refine .bind (.cluster ⟨_, rfl, .secret⟩) fun found => .ite (.pure _) (.cluster ⟨_, rfl, ?_⟩)
  rw [show (PullSecret.secret _ _ _ _ _).metadata.key = _ from
    p.key_wanted account robot.name robot.token]
  exact .secret

theorem linkStep_private : (p.linkStep account).Only (p.Private account) := by
  refine .bind (.cluster ⟨_, rfl, .serviceAccount⟩) fun found => ?_
  cases found with
  | none => exact .fail _
  | some existing =>
    dsimp only
    cases ServiceAccount.linksWith existing (p.spec.pullSecretName account) with
    | none => exact .pure _
    | some links => exact .cluster ⟨_, rfl, .serviceAccount⟩

/-- **A service account goes by what worlds agree in that it cannot tell apart.** -/
theorem roleStep_steady {role : Role} :
    (p.roleStep account role).Steady (World.answerBy h m) (p.Alike account) (p.Within account)
      fun _ => True := by
  have steady : ∀ {step : Step Unit}, step.Only (p.Private account) →
      step.Steady (World.answerBy h m) (p.Alike account) (p.Within account) fun _ => True :=
    fun only => .of_only only fun _ mine _ _ => mine.steady
  unfold roleStep
  -- The robot goes by the name of its key, so its prototypes are not those of another robot.
  refine robotStep_steady.bind fun robot named => ?_
  rw [named]
  refine prototypeStep_steady.bind fun _ _ => ?_
  exact (steady (pullSecretStep_private robot)).bind fun _ _ => steady linkStep_private

/-! ## What one service account adds -/

/-- **What a list of prototypes gains for a role**: nothing, or one prototype for a delegate that did
not have it. -/
def Gains (role : Role) (list longer : List Prototype) : Prop :=
  ∃ made : Option Prototype, longer = list ++ made.toList ∧
    ∀ prototype, made = some prototype → prototype.gives prototype.delegate.name role = true ∧
      ¬ (⟨list⟩ : Prototypes).grants prototype.delegate.name role = true

theorem Gains.refl (role : Role) (list : List Prototype) :
    Gains role list list :=
  ⟨none, (List.append_nil list).symm, nofun⟩

/-- What is private to a service account leaves the prototypes as they are. -/
theorem always_of_private {α : Type} {step : Step α} {faults : Prop}
    (only : step.Only (p.Private account)) (kept : List Prototype → Prop)
    (start : kept (w.registry.prototypesOf p.organization)) :
    step.Always (World.conduct faults) anything
      (fun _ after => kept (after.registry.prototypesOf p.organization))
      (fun _ after => kept (after.registry.prototypesOf p.organization)) w := by
  have run : step.Always (World.conduct faults) (fun question _ => p.Private account question)
      (fun _ after => kept (after.registry.prototypesOf p.organization))
      (fun _ after => kept (after.registry.prototypesOf p.organization)) w := by
    refine only.always (fun question state reply after mine allowed still => ?_) start
    rw [mine.prototypesOf_eq allowed]
    exact still
  exact run.mono (fun _ _ _ => trivial) (fun _ _ => id) fun _ _ => id

theorem prototypeStep_gains {robot : String} {role : Role} {faults : Prop}
    {list : List Prototype} (same : w.registry.prototypesOf p.organization = list) :
    (p.prototypeStep robot role).Always (World.conduct faults) anything
      (fun _ after => Gains role list (after.registry.prototypesOf p.organization))
      (fun _ after => Gains role list (after.registry.prototypesOf p.organization)) w := by
  subst same
  have none_made := Gains.refl role (w.registry.prototypesOf p.organization)
  unfold prototypeStep
  rw [Step.always_bind]
  refine Step.Always.lookup rfl trivial ?honest ?unclear fun _ _ => none_made
  case honest =>
    rintro response ⟨rfl, -⟩
    refine Step.Always.ite (fun h => absurd rfl h) fun _ => Step.Always.ite (fun _ => none_made)
      fun lacks => ?_
    -- Whether the creation counts as one or not, it may have taken effect.
    have left : ∀ {registry},
        w.registry.Leaves (.createPrototype p.organization robot role) registry →
          Gains role (w.registry.prototypesOf p.organization)
            (registry.prototypesOf p.organization) := by
      rintro registry (rfl | ⟨_, -, prototype, gives, rfl⟩)
      · exact none_made
      · refine ⟨some prototype, World.prototypesOf_insert_self _, ?_⟩
        rintro _ ⟨⟩
        obtain rfl := prototype.name_of_gives gives
        exact ⟨gives, fun granted => lacks (congrArg some granted)⟩
    rw [Step.always_bind]
    refine Step.Always.registry trivial ?_ ?_ fun _ e registry h => left h
    · intro made registry honest
      exact Step.Always.ite (fun _ => left (.inr ⟨_, honest⟩)) fun _ => left (.inr ⟨_, honest⟩)
    · intro _ made registry _ h
      exact Step.Always.ite (fun _ => left h) fun _ => left h
  case unclear =>
    rintro - response status
    rw [if_pos (by simpa [RegistryCall.telling] using status)]
    exact none_made

theorem robotStep_private : (p.robotStep account).Only (p.Private account) := by
  refine .bind (.registry ⟨_, rfl, .robot⟩) fun found => .ite (.of _) (.ite ?_ (.fail _))
  exact .bind (.registry ⟨_, rfl, .robot⟩) fun made => .ite (.of _) (.fail _)

/-- **Of the steps for one service account, one adds a prototype**, where it is needed. -/
theorem roleStep_gains {role : Role} {faults : Prop} :
    (p.roleStep account role).Always (World.conduct faults) anything
      (fun _ after => Gains role (w.registry.prototypesOf p.organization)
        (after.registry.prototypesOf p.organization))
      (fun _ after => Gains role (w.registry.prototypesOf p.organization)
        (after.registry.prototypesOf p.organization)) w := by
  unfold roleStep
  rw [Step.always_bind]
  refine (always_of_private robotStep_private (· = w.registry.prototypesOf p.organization) rfl).mono
    (fun _ _ => id) (fun robot w₁ same => ?_) fun _ w₁ same => same ▸ .refl _ _
  rw [Step.always_bind]
  refine (prototypeStep_gains same).mono (fun _ _ => id) (fun _ w₂ gains => ?_) fun _ _ => id
  rw [Step.always_bind]
  refine (always_of_private (pullSecretStep_private robot) (Gains role _) gains).mono
    (fun _ _ => id) (fun _ w₃ gains => ?_) fun _ _ => id
  exact always_of_private linkStep_private (Gains role _) gains

/-! ## All of them together -/

/-- Lists with the same prototypes of every delegate are the same up to order. -/
theorem perm_of_filter {list other : List Prototype}
    (same : ∀ name, (list.filter fun prototype => prototype.delegate.name == name) =
      other.filter fun prototype => prototype.delegate.name == name) : list.Perm other := by
  classical
  refine List.perm_iff_count.mpr fun prototype => ?_
  have own := congrArg (List.count prototype) (same prototype.delegate.name)
  rwa [List.count_filter (by simp), List.count_filter (by simp)] at own

/-- No two prototypes have one delegate, when of no delegate there are two. -/
theorem nodup_delegates {list : List Prototype}
    (one : ∀ name, (list.filter fun prototype => prototype.delegate.name == name).length ≤ 1) :
    (list.map fun prototype => prototype.delegate.name).Nodup := by
  refine List.nodup_iff_count_le_one.mpr fun name => ?_
  rw [List.count, List.countP_map, List.countP_eq_length_filter]
  exact one name

section Together

variable {woven : Program Bridge ({ role // role ∈ roles } → Except Failure Unit)}

/-- **How far a world moves for all service accounts**: their cells, and prototypes of their robots
that are added behind all others. -/
structure WithinAll (p : Provisioning) (w after : World) : Prop where
  cells : ∀ cell, (∀ role ∈ roles, ¬ p.Owns role.1 cell) → cell ≠ .prototypes p.organization →
    after.content cell = w.content cell
  others : ∀ name, (∀ role ∈ roles, name ≠ p.robotKey role.1) →
    after.registry.prototypesFor p.organization name = w.registry.prototypesFor p.organization name
  added : w.registry.prototypesOf p.organization <+: after.registry.prototypesOf p.organization

theorem WithinAll.of_steps (moved : Relation.ReflTransGen
    (fun w after => ∃ role : { role // role ∈ roles }, p.Within role.val.1 w after) w after) :
    p.WithinAll w after := by
  induction moved with
  | refl => exact ⟨fun _ _ _ => rfl, fun _ _ => rfl, List.prefix_rfl⟩
  | tail _ last ih =>
    obtain ⟨⟨role, mem⟩, moved⟩ := last
    exact ⟨fun cell foreign apart =>
        (moved.cells cell (foreign role mem) apart).trans (ih.cells cell foreign apart),
      fun name hne => (moved.others name (hne role mem)).trans (ih.others name hne),
      ih.added.trans moved.added⟩

/-- **Each service account ends as it would alone**, and so do the cells and the prototypes that it
goes by. -/
theorem weaves_alone (h : Habits) (m : Mishaps) (weaves : Program.Weaves p.roleProgram woven)
    (named : ∀ role ∈ roles, p.Named role.1 w) :
    (∀ role, (World.runBy h m woven w).1 role = (World.runBy h m (p.roleProgram role) w).1 ∧
      p.Alike role.val.1 (World.runBy h m woven w).2
        (World.runBy h m (p.roleProgram role) w).2) ∧
      p.WithinAll w (World.runBy h m woven w).2 := by
  have steady : ∀ role : { role // role ∈ roles }, (p.roleProgram role).Steady (World.answerBy h m)
      (p.Alike role.val.1) (p.Within role.val.1) fun _ => True := fun _ =>
    Program.Steady.mono roleStep_steady fun _ _ => trivial
  have run := weaves.run_alone steady
    (fun i j hne _ _ _ moved alike => Within.unnoticed moved (account_ne hne) alike)
    w (fun _ => w) fun role => Alike.refl (named role.val role.property)
  exact ⟨run.1, .of_steps run.2⟩

/-- **In whatever way they take turns**, it comes to the same. -/
theorem weaves_agree (h : Habits) (m : Mishaps)
    {other : Program Bridge ({ role // role ∈ roles } → Except Failure Unit)}
    (weaves : Program.Weaves p.roleProgram woven) (weaves' : Program.Weaves p.roleProgram other)
    (named : ∀ role ∈ roles, p.Named role.1 w) :
    (World.runBy h m woven w).1 = (World.runBy h m other w).1 ∧
      (∀ cell, cell ≠ .prototypes p.organization →
        (World.runBy h m woven w).2.content cell = (World.runBy h m other w).2.content cell) ∧
      ∀ name, (World.runBy h m woven w).2.registry.prototypesFor p.organization name =
        (World.runBy h m other w).2.registry.prototypesFor p.organization name := by
  obtain ⟨each, all⟩ := weaves_alone h m weaves named
  obtain ⟨each', all'⟩ := weaves_alone h m weaves' named
  refine ⟨funext fun role => (each role).1.trans (each' role).1.symm, fun cell apart => ?_,
    fun name => ?_⟩
  -- What a service account owns is as it would be alone; what nobody owns has not been touched.
  · by_cases owned : ∃ role ∈ roles, p.Owns role.1 cell
    · obtain ⟨role, mem, owns⟩ := owned
      exact ((each ⟨role, mem⟩).2.own cell owns).trans ((each' ⟨role, mem⟩).2.own cell owns).symm
    · have foreign : ∀ role ∈ roles, ¬ p.Owns role.1 cell := fun role mem owns =>
        owned ⟨role, mem, owns⟩
      exact (all.cells cell foreign apart).trans (all'.cells cell foreign apart).symm
  · by_cases own : ∃ role ∈ roles, name = p.robotKey role.1
    · obtain ⟨role, mem, rfl⟩ := own
      exact (each ⟨role, mem⟩).2.prototypes.trans (each' ⟨role, mem⟩).2.prototypes.symm
    · have foreign : ∀ role ∈ roles, name ≠ p.robotKey role.1 := fun role mem same =>
        own ⟨role, mem, same⟩
      exact (all.others name foreign).trans (all'.others name foreign).symm

/-- **What is added to the prototypes**: for each robot one at most, which it did not have. -/
theorem weaves_gain (h : Habits) (m : Mishaps) (weaves : Program.Weaves p.roleProgram woven)
    (named : ∀ role ∈ roles, p.Named role.1 w) :
    ∃ made, (World.runBy h m woven w).2.registry.prototypesOf p.organization =
        w.registry.prototypesOf p.organization ++ made ∧
      ∀ name, (made.filter fun prototype => prototype.delegate.name == name) = [] ∨
        ∃ role ∈ roles, ∃ prototype : Prototype,
          (made.filter fun prototype => prototype.delegate.name == name) = [prototype] ∧
          prototype.gives (p.robotKey role.1) role.2 = true ∧
            ¬ p.HasGrant (p.robotKey role.1) role.2 w := by
  obtain ⟨each, all⟩ := weaves_alone h m weaves named
  obtain ⟨made, grown⟩ := all.added
  refine ⟨made, grown.symm, fun name => ?_⟩
  have now : (World.runBy h m woven w).2.registry.prototypesFor p.organization name =
      w.registry.prototypesFor p.organization name ++
        made.filter fun prototype => prototype.delegate.name == name := by
    rw [RegistryStore.prototypesFor, ← grown, List.filter_append]
    rfl
  by_cases own : ∃ role ∈ roles, name = p.robotKey role.1
  · obtain ⟨role, mem, rfl⟩ := own
    -- Of its own prototypes it sees what it would see alone, and alone it makes one at most.
    have alone : Gains role.2 (w.registry.prototypesOf p.organization)
        ((World.runBy h m (p.roleProgram ⟨role, mem⟩) w).2.registry.prototypesOf
          p.organization) := by
      have ended := Program.Always.of_ends roleStep_gains
        (World.ends_runBy h m (p.roleProgram ⟨role, mem⟩) w)
      revert ended
      split <;> exact id
    obtain ⟨made', grown', needed⟩ := alone
    have same := (each ⟨role, mem⟩).2.prototypes
    rw [now, RegistryStore.prototypesFor, RegistryStore.prototypesFor, grown', List.filter_append]
      at same
    rw [List.append_cancel_left same]
    cases made' with
    | none => exact .inl rfl
    | some prototype =>
      obtain ⟨gives, lacked⟩ := needed prototype rfl
      by_cases about : prototype.delegate.name = p.robotKey role.1
      · rw [about] at gives lacked
        exact .inr ⟨role, mem, prototype, by simp [about], gives, lacked⟩
      · exact .inl (by simp [about])
  · have still := all.others name fun role mem same => own ⟨role, mem, same⟩
    rw [now] at still
    exact .inl (List.append_right_eq_self.mp still)

/-- The fan-out ends with the first failure, in the world that the service accounts leave. -/
theorem runBy_fanOut (h : Habits) (m : Mishaps)
    (woven : Program Bridge ({ role // role ∈ roles } → Except Failure Unit)) :
    World.runBy h m (fanOut woven).run w =
      (Step.firstFailure (roles.attach.map (World.runBy h m woven w).1),
        (World.runBy h m woven w).2) :=
  Program.run_bind _ woven _ w

/-- **The fan-out does not hang on the order of the calls.** In whatever way the service accounts take
turns, each has the result, and the fan-out the failure, that there is when one comes after another.
Nothing that is stored differs but the order of the prototypes. Of these none is lost, and for each
robot one is added at most, where it did not have its role. -/
theorem fan_out_independent (h : Habits) (m : Mishaps) (weaves : Program.Weaves p.roleProgram woven)
    (named : ∀ role ∈ roles, p.Named role.1 w) :
    let oneByOne := Step.all (roles.map fun (account, role) => p.roleStep account role)
    let together := World.runBy h m (fanOut woven).run w
    let apart := World.runBy h m oneByOne.run w
    (World.runBy h m woven w).1 = (World.runBy h m (Turns.inOrder.woven p) w).1 ∧
      together.1 = apart.1 ∧
      (∀ cell, cell ≠ .prototypes p.organization →
        together.2.content cell = apart.2.content cell) ∧
      (together.2.registry.prototypesOf p.organization).Perm
        (apart.2.registry.prototypesOf p.organization) ∧
      ∃ made, together.2.registry.prototypesOf p.organization =
          w.registry.prototypesOf p.organization ++ made ∧
        (made.map fun prototype => prototype.delegate.name).Nodup ∧
        ∀ prototype ∈ made, ∃ role ∈ roles, prototype.gives (p.robotKey role.1) role.2 = true ∧
          ¬ p.HasGrant (p.robotKey role.1) role.2 w := by
  intro oneByOne
  have inOrder : fanOut (Turns.inOrder.woven p) = oneByOne := fanOut_inOrder p
  rw [← inOrder, runBy_fanOut, runBy_fanOut]
  obtain ⟨results, cells, prototypes⟩ := weaves_agree h m weaves (Turns.inOrder.weaves p) named
  obtain ⟨made, grown, one⟩ := weaves_gain h m weaves named
  refine ⟨results, ?_, cells, perm_of_filter prototypes, made, grown, nodup_delegates fun name => ?_,
    fun prototype mem => ?_⟩
  · rw [results]
  · obtain none_made | ⟨role, mem, prototype, only, -⟩ := one name
    · simp [none_made]
    · simp [only]
  · have here : prototype ∈ made.filter fun other =>
        other.delegate.name == prototype.delegate.name := by simp [mem]
    obtain none_made | ⟨role, hrole, other, only, needed⟩ := one prototype.delegate.name
    · rw [none_made] at here
      cases here
    · rw [only, List.mem_singleton] at here
      exact ⟨role, hrole, here ▸ needed⟩

end Together

/-- The service accounts of the namespace that was provisioned in part, the last one first. -/
theorem shop_fan_out_reversed :
    ∃ woven, Program.Weaves (NamespacePass.provisioning NamespacePass.shop NamespacePass.acme
        "[::1]").roleProgram woven ∧
      (∀ role ∈ roles, (NamespacePass.provisioning NamespacePass.shop NamespacePass.acme
        "[::1]").Named role.1 NamespacePass.begun) ∧
      (World.runBy .usual .none woven NamespacePass.begun).1 =
        (World.runBy .usual .none (Turns.inOrder.woven (NamespacePass.provisioning
          NamespacePass.shop NamespacePass.acme "[::1]")) NamespacePass.begun).1 ∧
      ∃ made, (World.runBy .usual .none (fanOut woven).run
          NamespacePass.begun).2.registry.prototypesOf "acme_shop" =
            NamespacePass.begun.registry.prototypesOf "acme_shop" ++ made ∧
        (made.map fun prototype => prototype.delegate.name).Nodup := by
  generalize here : NamespacePass.provisioning NamespacePass.shop NamespacePass.acme "[::1]" = p
  have organization : p.organization = "acme_shop" := by
    rw [← here]
    decide +kernel
  have weaves : Program.Weaves p.roleProgram
      (Program.inTurn p.roleProgram roles.attach.reverse fun _ => .ok ()) :=
    Program.weaves_inTurn (List.nodup_reverse.mpr nodup_roles) fun role absent =>
      absurd (List.mem_reverse.mpr (List.mem_attach roles role)) absent
  have named : ∀ role ∈ roles, p.Named role.1 NamespacePass.begun := by
    have each : ∀ role ∈ roles,
        ((NamespacePass.begun.registry.robots.get? (p.robotKey role.1)).all
          fun robot => (p.named role.1 robot).name == p.robotKey role.1) = true := by
      rw [← here]
      decide +kernel
    intro role mem robot stored
    have told := each role mem
    rw [show NamespacePass.begun.registry.robots.get? (p.robotKey role.1) = _ from stored] at told
    exact beq_iff_eq.mp told
  obtain ⟨results, -, -, -, made, grown, once, -⟩ :=
    fan_out_independent .usual .none weaves named
  rw [← organization]
  exact ⟨_, weaves, named, results, made, grown, once⟩

end Provisioning

end RegistryBridge
