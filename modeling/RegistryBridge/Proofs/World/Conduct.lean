import RegistryBridge.Proofs.Pass.Step
import RegistryBridge.World.Answer
/-!
# The conduct of a world

A world that is honest answers what it stores, and every write takes effect. It still has a choice:
which token a new robot gets, which identity a new prototype, and by which of two statuses a missing
robot or repository is reported. A world with faults may also let any call fail, before the call has
taken effect or after it. A failing call gives an error, or a status that says nothing.

## Main definitions

* `RegistryCall.telling`: the statuses that say something.
* `RegistryStore.Honest`, `World.Honest`: the honest answers.
* `Question.Fails`: the answers of a failing call.
* `World.conduct`: the conduct of a world, with or without faults.
* `World.disturbed`: the conduct of a world with faults that others edit.

## Main results

* `World.honest_answer`: the world that rehearsals run in is an honest one.
* `Step.Always.cluster`, `Step.Always.registry`, `Step.Always.lookup`: what has to be shown of a call
  of a step.
-/

namespace RegistryBridge

namespace RegistryCall

/-- **The statuses that say something**: that a call has succeeded, or that the thing asked for is
not there. -/
def telling : RegistryCall → List Nat
  | getOrganization _ => [200, 404]
  | createOrganization _ => [201]
  | deleteOrganization _ => [204]
  | getRobot .. => [200, 400, 404]
  | createRobot .. => [201]
  | getPrototypes _ => [200]
  | createPrototype .. => [200]
  | getRepository .. => [200, 403, 404]
  | createRepository .. => [201]

/-! A lookup tells of a hit by one status and of a miss by others. Where it says nothing, its status
is neither. -/

variable {o name : String} {status : Nat}

theorem notMem_telling_getOrganization :
    status ∉ (getOrganization o).telling ↔ status ≠ 200 ∧ status ≠ 404 := by
  simp [telling]

theorem notMem_telling_getRobot :
    status ∉ (getRobot o name).telling ↔ status ≠ 200 ∧ ¬ (status = 400 ∨ status = 404) := by
  simp [telling]

theorem notMem_telling_getRepository :
    status ∉ (getRepository o name).telling ↔ status ≠ 200 ∧ ¬ (status = 403 ∨ status = 404) := by
  simp [telling]

end RegistryCall

namespace RegistryStore

open Registry (Response)

/-- **The honest answers of a registry**, each with what is stored then. -/
def Honest (store : RegistryStore) :
    (call : RegistryCall) → Response call.Value → RegistryStore → Prop
  | .getOrganization o, response, after =>
    response.status = (if store.organizations.contains o then 200 else 404) ∧ after = store
  | .createOrganization o, response, after =>
    response.status = 201 ∧ after = { store with organizations := store.organizations.insert o () }
  | .deleteOrganization o, response, after =>
    if store.organizations.contains o then
      response.status = 204 ∧ after = { store with organizations := store.organizations.erase o }
    else response.status = 404 ∧ after = store
  | .getRobot o short, response, after =>
    (match store.robots.get? (robotName o short) with
      | some robot => response = ⟨200, some robot⟩
      | none => response.status = 400 ∨ response.status = 404) ∧ after = store
  | .createRobot o short, response, after =>
    ∃ robot : Registry.Robot, response = ⟨201, some robot⟩ ∧
      after = { store with robots := store.robots.insert (robotName o short) robot }
  | .getPrototypes o, response, after =>
    response = ⟨200, some ⟨store.prototypesOf o⟩⟩ ∧ after = store
  | .createPrototype o robot role, response, after =>
    response.status = 200 ∧ ∃ prototype : Registry.Prototype,
      prototype.gives robot role = true ∧
        after = { store with
          prototypes := store.prototypes.insert o (store.prototypesOf o ++ [prototype]) }
  | .getRepository o name, response, after =>
    (if store.repositories.contains (qualified o name) then response.status = 200
      else response.status = 403 ∨ response.status = 404) ∧ after = store
  | .createRepository o name, response, after =>
    response.status = 201 ∧
      after = { store with repositories := store.repositories.insert (qualified o name) () }

/-- What a failed call may leave: it has taken effect or not. -/
def Leaves (store : RegistryStore) (call : RegistryCall) (after : RegistryStore) : Prop :=
  after = store ∨ ∃ response, store.Honest call response after

/-- An honest answer to a question that only asks leaves the registry as it is. -/
theorem Honest.eq_of_read {store after : RegistryStore} {call : RegistryCall}
    {response : Response call.Value} (h : store.Honest call response after)
    (read : call.isWrite = false) : after = store := by
  cases call
  case getOrganization | getRobot | getPrototypes | getRepository => exact h.2
  all_goals cases read

theorem Leaves.eq_of_read {store after : RegistryStore} {call : RegistryCall}
    (h : store.Leaves call after) (read : call.isWrite = false) : after = store := by
  rcases h with rfl | ⟨response, honest⟩
  · rfl
  · exact honest.eq_of_read read

theorem gives_forRobot (robot : String) (role : Registry.Role) :
    (Registry.Prototype.forRobot robot role).gives robot role = true := by
  simp [Registry.Prototype.forRobot, Registry.Prototype.gives]

/-- The registry of a rehearsal is honest. -/
theorem honest_answer (store : RegistryStore) (call : RegistryCall) :
    store.Honest call (store.answer call).1 (store.answer call).2 := by
  cases call with
  | getOrganization o => by_cases h : store.organizations.contains o <;> simp [Honest, answer, h]
  | createOrganization o => exact ⟨rfl, rfl⟩
  | deleteOrganization o => by_cases h : store.organizations.contains o <;> simp [Honest, answer, h]
  | getRobot o short =>
    cases h : store.robots.get? (robotName o short) <;> simp [Honest, answer, h]
  | createRobot o short => exact ⟨newRobot o short, rfl, rfl⟩
  | getPrototypes o => exact ⟨rfl, rfl⟩
  | createPrototype o robot role => exact ⟨rfl, _, gives_forRobot robot role, rfl⟩
  | getRepository o name =>
    by_cases h : store.repositories.contains (qualified o name) <;> simp [Honest, answer, h]
  | createRepository o name => exact ⟨rfl, rfl⟩

end RegistryStore

/-- A question that only asks leaves the cluster as it is. -/
theorem ClusterStore.answer_of_read (store : ClusterStore) {call : ClusterCall}
    (read : call.isWrite = false) : (store.answer call).2 = store := by
  cases call
  case listIntegrations | getSecret | getServiceAccount | listImageStreams | getImageStream => rfl
  all_goals cases read

namespace World

/-- **The honest answers of a world.** A connection opens when the registry's address can be read. -/
def Honest (w : World) : (question : Question) → question.Answer → World → Prop
  | .cluster call, reply, after =>
    reply = (.ok (w.cluster.answer call).1 : Except OperationError call.Value) ∧
      after = { w with cluster := (w.cluster.answer call).2 }
  | .connect hostname token insecure, reply, after =>
    reply = (Connection.ofHostname hostname token insecure).map (fun _ => ()) ∧ after = w
  | .registry call, reply, after =>
    ∃ response registry, w.registry.Honest call response registry ∧
      reply = (.ok response : Except RegistryError (Registry.Response call.Value)) ∧
        after = { w with registry }
  | .publish _, _, after => after = w

/-- The world of a rehearsal is honest. -/
theorem honest_answer (w : World) (question : Question) :
    w.Honest question (w.answer question).1 (w.answer question).2 := by
  cases question with
  | cluster call => exact ⟨rfl, rfl⟩
  | connect hostname token insecure =>
    simp only [Honest, answer, and_true]
    rfl
  | registry call => exact ⟨_, _, w.registry.honest_answer call, rfl, rfl⟩
  | publish event => rfl

end World

/-- **The answers of a failing call**: an error, or a status that says nothing. -/
def Question.Fails : (question : Question) → question.Answer → Prop
  | .cluster call, reply => ∃ e, reply = (.error e : Except OperationError call.Value)
  | .connect .., reply => ∃ e, reply = (.error e : Except RegistryError Unit)
  | .registry call, reply =>
    (∃ e, reply = (.error e : Except RegistryError (Registry.Response call.Value))) ∨
      ∃ response, reply = (.ok response : Except RegistryError (Registry.Response call.Value)) ∧
        response.status ∉ call.telling
  | .publish _, _ => False

/-- **The conduct of a world.** With faults any call may fail, before it has taken effect or after
it; what does not fail is honest. -/
def World.conduct (faults : Prop) : Conduct Bridge World where
  allows question w reply after :=
    w.Honest question reply after ∨
      faults ∧ question.Fails reply ∧ (after = w ∨ ∃ honest, w.Honest question honest after)
  answers question w := ⟨_, _, .inl (w.honest_answer question)⟩

/-- A run in the world of a rehearsal is one in which nothing fails. -/
theorem World.ends_honest {α : Type} (faults : Prop) (p : Program Bridge α) (w : World) :
    p.Ends (World.conduct faults) w (World.run p w).1 (World.run p w).2 := by
  have allowed : ∀ question w, (World.conduct faults).allows question w
      (World.answer question w).1 (World.answer question w).2 :=
    fun question w => .inl (w.honest_answer question)
  exact Program.ends_run allowed p w

/-- Whether a call fails or not, the world is as it was or as an honest answer leaves it. -/
theorem World.eq_or_honest_of_allows {faults : Prop} {question : Question}
    {reply : question.Answer} {w after : World}
    (allowed : (World.conduct faults).allows question w reply after) :
    after = w ∨ ∃ reply, w.Honest question reply after := by
  rcases allowed with honest | ⟨-, -, left⟩
  · exact .inr ⟨reply, honest⟩
  · exact left

/-- **A world with faults that others edit** while a pass goes on: before a question is answered
they may have made any number of edits. -/
def World.disturbed (edit : World → World → Prop) : Conduct Bridge World where
  allows question w reply after :=
    ∃ middle, Relation.ReflTransGen edit w middle ∧
      (World.conduct True).allows question middle reply after
  answers question w := ⟨_, _, w, .refl, .inl (w.honest_answer question)⟩

/-- A run in the world of a rehearsal is one in which others edit nothing and nothing fails. -/
theorem World.ends_run {α : Type} (edit : World → World → Prop) (p : Program Bridge α) (w : World) :
    p.Ends (World.disturbed edit) w (World.run p w).1 (World.run p w).2 := by
  have allowed : ∀ question w, (World.disturbed edit).allows question w
      (World.answer question w).1 (World.answer question w).2 :=
    fun question w => ⟨w, .refl, .inl (w.honest_answer question)⟩
  exact Program.ends_run allowed p w

/-- **What edits keep and honest answers keep** is kept in a disturbed world. -/
theorem World.keep_of_disturbed {edit : World → World → Prop} {kept : World → Prop}
    {question : Question} {reply : question.Answer} {w after : World}
    (allowed : (World.disturbed edit).allows question w reply after)
    (edits : ∀ w after, edit w after → kept w → kept after)
    (honest : ∀ w reply after, w.Honest question reply after → kept w → kept after)
    (start : kept w) : kept after := by
  obtain ⟨middle, edited, allowed⟩ := allowed
  have keptMiddle : kept middle := by
    clear allowed
    induction edited with
    | refl => exact start
    | tail _ last ih => exact edits _ _ last ih
  rcases eq_or_honest_of_allows allowed with rfl | ⟨_, answered⟩
  · exact keptMiddle
  · exact honest _ _ _ answered keptMiddle

namespace Step

variable {faults : Prop} {asked : Question → World → Prop} {lost : Failure → World → Prop}
  {w : World}

/-- **A call of the cluster** gives the honest value, or with faults an error that leaves the cluster
as it was or as the call would have it. -/
theorem Always.cluster {call : ClusterCall} {failure : OperationError → Failure}
    {ends : call.Value → World → Prop} {cluster : ClusterStore}
    (leaves : (w.cluster.answer call).2 = cluster) (ask : asked (.cluster call) w)
    (honest : ends (w.cluster.answer call).1 { w with cluster })
    (fails : faults → ∀ e, lost (failure e) w ∧ lost (failure e) { w with cluster }) :
    (Step.cluster call failure).Always (World.conduct faults) asked ends lost w := by
  subst leaves
  refine (always_cluster call failure).mpr ⟨ask, ?_⟩
  rintro reply after (⟨rfl, rfl⟩ | ⟨hf, ⟨e, rfl⟩, rfl | ⟨_, _, rfl⟩⟩)
  · exact honest
  · exact (fails hf e).1
  · exact (fails hf e).2

/-- **A call of the registry**: an honest answer, or with faults one that says nothing, or an
error. -/
theorem Always.registry {call : RegistryCall} {failure : RegistryError → Failure}
    {ends : Registry.Response call.Value → World → Prop} (ask : asked (.registry call) w)
    (honest : ∀ response registry, w.registry.Honest call response registry →
      ends response { w with registry })
    (unclear : faults → ∀ response registry, response.status ∉ call.telling →
      w.registry.Leaves call registry → ends response { w with registry })
    (fails : faults → ∀ e registry, w.registry.Leaves call registry →
      lost (failure e) { w with registry }) :
    (Step.registry call failure).Always (World.conduct faults) asked ends lost w := by
  have left : ∀ after, (after = w ∨ ∃ reply, w.Honest (.registry call) reply after) →
      ∃ registry, w.registry.Leaves call registry ∧ after = { w with registry } := by
    rintro after (rfl | ⟨_, response, registry, h, _, rfl⟩)
    · exact ⟨_, .inl rfl, rfl⟩
    · exact ⟨registry, .inr ⟨response, h⟩, rfl⟩
  refine (always_registry call failure).mpr ⟨ask, ?_⟩
  rintro reply after (⟨response, registry, h, rfl, rfl⟩ | ⟨hf, failing, h⟩)
  · exact honest response registry h
  · obtain ⟨registry, hleft, rfl⟩ := left after h
    rcases failing with ⟨e, rfl⟩ | ⟨response, rfl, hstatus⟩
    · exact fails hf e registry hleft
    · exact unclear hf response registry hstatus hleft

/-- **A lookup in the registry** leaves the world as it is. -/
theorem Always.lookup {call : RegistryCall} {failure : RegistryError → Failure}
    {ends : Registry.Response call.Value → World → Prop} (read : call.isWrite = false)
    (ask : asked (.registry call) w)
    (honest : ∀ response, w.registry.Honest call response w.registry → ends response w)
    (unclear : faults → ∀ response : Registry.Response call.Value,
      response.status ∉ call.telling → ends response w)
    (fails : faults → ∀ e, lost (failure e) w) :
    (Step.registry call failure).Always (World.conduct faults) asked ends lost w := by
  refine Always.registry ask ?_ ?_ ?_
  · intro response registry h
    obtain rfl := h.eq_of_read read
    exact honest response h
  · intro hf response registry hstatus left
    obtain rfl := left.eq_of_read read
    exact unclear hf response hstatus
  · intro hf e registry left
    obtain rfl := left.eq_of_read read
    exact fails hf e

/-- An event is published, and nothing else comes of it. -/
theorem Always.tell {transition : Transition} {object : ObjectReference} {note : String}
    {ends : Unit → World → Prop} (ask : asked (.publish (transition.event object note)) w)
    (h : ends () w) :
    (Step.tell transition object note).Always (World.conduct faults) asked ends lost w := by
  refine (always_tell transition object note).mpr ⟨ask, ?_⟩
  rintro reply after (rfl | ⟨-, hf, -⟩)
  · exact h
  · exact hf.elim

end Step

end RegistryBridge
