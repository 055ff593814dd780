import RegistryBridge.Proofs.World.Cell
/-!
# Worlds whose answers can be foreseen

Where an honest registry has a choice, it may choose by what it is asked: which robot it makes for a
name, which prototype, and by which status it says that something is not there. And a call may fail
for good, by what it is, without having any effect. Such a world has one answer to a question in one
state, and the answer hangs on one cell.

## Main definitions

* `Habits`: the choices of an honest registry; `Habits.usual`: those of the rehearsed world.
* `Mishaps`: the calls that fail, each with its failing answer.
* `World.answerBy`, `World.runBy`: the answer to a question, and a run, by habits and mishaps.

## Main results

* `World.allows_answerBy`: a world with faults may answer so.
* `World.answerBy_usual`: the rehearsed world answers so, with nothing failing.
* `World.answerBy_agree`: the answer, and what it leaves, hang on the cell of the question.
-/

namespace RegistryBridge

/-- **The habits of an honest registry**: what it makes and what it says is missing, by what it is
asked. A robot is named after its organization and its short name. -/
structure Habits where
  robot : String → String → Registry.Robot
  prototype : String → String → Registry.Role → Registry.Prototype
  noRobot : String → String → Nat
  noRepository : String → String → Nat
  named : ∀ o short, (robot o short).name = robotName o short
  gives : ∀ o name role, (prototype o name role).gives name role = true
  noRobot_absent : ∀ o short, noRobot o short = 400 ∨ noRobot o short = 404
  noRepository_absent : ∀ o name, noRepository o name = 403 ∨ noRepository o name = 404

/-- The habits of the world that rehearsals run in. -/
def Habits.usual : Habits where
  robot := RegistryStore.newRobot
  prototype _ := Registry.Prototype.forRobot
  noRobot _ _ := 400
  noRepository _ _ := 404
  named _ _ := rfl
  gives _ := RegistryStore.gives_forRobot
  noRobot_absent _ _ := .inl rfl
  noRepository_absent _ _ := .inr rfl

/-- **The calls that fail**, each with its failing answer. -/
structure Mishaps where
  reply? : (question : Question) → Option question.Answer
  fails : ∀ question reply, reply? question = some reply → question.Fails reply

/-- Nothing fails. -/
def Mishaps.none : Mishaps where
  reply? _ := Option.none
  fails _ _ failed := (Option.some_ne_none _ failed.symm).elim

/-- The registry's answer to a call, by its habits, and what is stored then. -/
def RegistryStore.answerBy (h : Habits) (store : RegistryStore) :
    (call : RegistryCall) → Registry.Response call.Value × RegistryStore
  | .getRobot o short =>
    (match store.robots.get? (robotName o short) with
    | some robot => ⟨200, some robot⟩
    | none => ⟨h.noRobot o short, none⟩,
      store)
  | .createRobot o short =>
    (⟨201, some (h.robot o short)⟩,
      { store with robots := store.robots.insert (robotName o short) (h.robot o short) })
  | .createPrototype o robot role =>
    (⟨200, some (h.prototype o robot role)⟩,
      { store with
        prototypes :=
          store.prototypes.insert o (store.prototypesOf o ++ [h.prototype o robot role]) })
  | .getRepository o name =>
    (if store.repositories.contains (qualified o name) then ⟨200, some { name, ns := o }⟩
    else ⟨h.noRepository o name, none⟩,
      store)
  | call => store.answer call

namespace World

/-- The honest answer to a question, by the habits of the registry, and the world then. -/
def answerHonestly (h : Habits) (question : Question) (w : World) : question.Answer × World :=
  match question with
  | .registry call =>
    let (response, registry) := w.registry.answerBy h call
    ((.ok response : Except RegistryError (Registry.Response call.Value)), { w with registry })
  | question => w.answer question

/-- **The answer to a question**, and the world then. A call that fails has no effect. -/
def answerBy (h : Habits) (m : Mishaps) (question : Question) (w : World) :
    question.Answer × World :=
  match m.reply? question with
  | some reply => (reply, w)
  | none => w.answerHonestly h question

/-- **A program run in a world that can be foreseen.** -/
def runBy {α : Type} (h : Habits) (m : Mishaps) (p : Program Bridge α) (w : World) : α × World :=
  p.run (I := Bridge) (answerBy h m) w

variable {h : Habits} {m : Mishaps} {question : Question} {w : World}

/-! ## What kind of answers these are -/

theorem honest_answerBy (store : RegistryStore) (call : RegistryCall) :
    store.Honest call (store.answerBy h call).1 (store.answerBy h call).2 := by
  cases call with
  | getRobot o short =>
    cases stored : store.robots.get? (robotName o short) <;>
      simp [RegistryStore.Honest, RegistryStore.answerBy, stored, h.noRobot_absent]
  | createRobot o short => exact ⟨h.robot o short, rfl, rfl⟩
  | createPrototype o robot role => exact ⟨rfl, _, h.gives o robot role, rfl⟩
  | getRepository o name =>
    by_cases there : store.repositories.contains (qualified o name) <;>
      simp [RegistryStore.Honest, RegistryStore.answerBy, there, h.noRepository_absent]
  | getOrganization | createOrganization | deleteOrganization | getPrototypes | createRepository =>
    exact store.honest_answer _

theorem honest_answerHonestly (question : Question) (w : World) :
    w.Honest question (w.answerHonestly h question).1 (w.answerHonestly h question).2 := by
  cases question with
  | registry call => exact ⟨_, _, honest_answerBy w.registry call, rfl, rfl⟩
  | cluster | connect | publish => exact w.honest_answer _

/-- **A world with faults may answer so.** -/
theorem allows_answerBy (h : Habits) (m : Mishaps) (question : Question) (w : World) :
    (World.conduct True).allows question w (w.answerBy h m question).1
      (w.answerBy h m question).2 := by
  unfold answerBy
  cases failed : m.reply? question with
  | some reply => exact .inr ⟨trivial, m.fails question reply failed, .inl rfl⟩
  | none => exact .inl (honest_answerHonestly question w)

/-- So a run in such a world is one in which any call may fail. -/
theorem ends_runBy {α : Type} (h : Habits) (m : Mishaps) (p : Program Bridge α) (w : World) :
    p.Ends (World.conduct True) w (runBy h m p w).1 (runBy h m p w).2 :=
  Program.ends_run (c := World.conduct True) (allows_answerBy h m) p w

/-- **The rehearsed world answers so**, with nothing failing. -/
theorem answerBy_usual (question : Question) (w : World) :
    w.answerBy .usual .none question = w.answer question := by
  cases question with
  | registry call => cases call <;> rfl
  | cluster | connect | publish => rfl

/-- What the cluster gives is what it stores, for a call that fails gives nothing. -/
theorem eq_of_answerBy_cluster {call : ClusterCall} {value : call.Value}
    (given : (w.answerBy h m (.cluster call)).1 = .ok value) :
    value = (w.cluster.answer call).1 := by
  unfold answerBy at given
  cases failed : m.reply? (.cluster call) with
  | some reply =>
    rw [failed] at given
    obtain ⟨e, lost⟩ := m.fails _ _ failed
    rw [lost] at given
    cases given
  | none =>
    rw [failed] at given
    exact (Except.ok.inj given).symm

/-- A status that says something is not that of a failing call. -/
theorem answerBy_of_telling {call : RegistryCall} {response : Registry.Response call.Value}
    (given : (w.answerBy h m (.registry call)).1 = .ok response)
    (tells : response.status ∈ call.telling) : response = (w.registry.answerBy h call).1 := by
  unfold answerBy at given
  cases failed : m.reply? (.registry call) with
  | some reply =>
    rw [failed] at given
    subst given
    rcases m.fails _ _ failed with ⟨e, ⟨⟩⟩ | ⟨response', same, unclear⟩
    obtain rfl := Except.ok.inj same
    exact absurd tells unclear
  | none =>
    rw [failed] at given
    exact (Except.ok.inj given).symm

/-! ## What they hang on -/

section Agree

variable {v : World} {cell : Cell}

/-- What is written under a key is there, whatever was there before. -/
theorem get?_insert_agree {α : Type} (table other : Table α) (key : String) (value : α) :
    (table.insert key value).get? key = (other.insert key value).get? key := by
  rw [Table.get?_insert_self, Table.get?_insert_self]

theorem cluster_answer_agree {call : ClusterCall}
    (agree : ∀ cell, call.cell? = some cell → w.content cell = v.content cell) :
    (w.cluster.answer call).1 = (v.cluster.answer call).1 ∧
      ∀ cell, call.cell? = some cell →
        ({ w with cluster := (w.cluster.answer call).2 } : World).content cell =
          ({ v with cluster := (v.cluster.answer call).2 } : World).content cell := by
  cases call with
  | listIntegrations | getSecret | getServiceAccount =>
    exact ⟨agree _ rfl, agree⟩
  | listImageStreams ns =>
    have same : w.cluster.imageStreams = v.cluster.imageStreams := agree _ rfl
    exact ⟨congrArg (List.filter _) same, agree⟩
  | getImageStream ns name =>
    have same : w.cluster.imageStreams = v.cluster.imageStreams := agree _ rfl
    exact ⟨congrArg (List.find? _) same, agree⟩
  | createImport | reportStatus => exact ⟨rfl, agree⟩
  | applySecret secret =>
    refine ⟨rfl, ?_⟩
    rintro _ ⟨⟩
    exact get?_insert_agree ..
  | linkServiceAccount ns name links =>
    have same : w.cluster.serviceAccounts.get? (qualified ns name) =
        v.cluster.serviceAccounts.get? (qualified ns name) := agree _ rfl
    refine ⟨rfl, ?_⟩
    rintro _ ⟨⟩
    simp only [ClusterStore.answer, ClusterStore.linked, same]
    exact get?_insert_agree ..
  | holdFinalizer name finalizer =>
    have same : w.cluster.namespaces.get? name = v.cluster.namespaces.get? name := agree _ rfl
    refine ⟨rfl, ?_⟩
    rintro _ ⟨⟩
    simp only [ClusterStore.answer, ClusterStore.held, same]
    split
    · exact get?_insert_agree ..
    · exact same
  | releaseFinalizer name finalizer =>
    have same : w.cluster.namespaces.get? name = v.cluster.namespaces.get? name := agree _ rfl
    refine ⟨rfl, ?_⟩
    rintro _ ⟨⟩
    simp only [ClusterStore.answer, ClusterStore.released, same]
    split
    · exact get?_insert_agree ..
    · exact same
  | noteBuild ns name key value =>
    have same : w.cluster.builds.get? (qualified ns name) =
        v.cluster.builds.get? (qualified ns name) := agree _ rfl
    refine ⟨rfl, ?_⟩
    rintro _ ⟨⟩
    simp only [ClusterStore.answer, ClusterStore.noted, same]
    split
    · exact get?_insert_agree ..
    · exact same

theorem registry_answerBy_agree {call : RegistryCall}
    (agree : ∀ cell, call.cell? = some cell → w.content cell = v.content cell) :
    (w.registry.answerBy h call).1 = (v.registry.answerBy h call).1 ∧
      ∀ cell, call.cell? = some cell →
        ({ w with registry := (w.registry.answerBy h call).2 } : World).content cell =
          ({ v with registry := (v.registry.answerBy h call).2 } : World).content cell := by
  cases call with
  | getOrganization o =>
    have same : w.registry.organizations.contains o = v.registry.organizations.contains o :=
      congrArg Option.isSome (agree _ rfl)
    refine ⟨?_, agree⟩
    simp only [RegistryStore.answerBy, RegistryStore.answer, same]
  | createOrganization o =>
    refine ⟨rfl, ?_⟩
    rintro _ ⟨⟩
    exact get?_insert_agree ..
  | deleteOrganization o =>
    have same : w.registry.organizations.contains o = v.registry.organizations.contains o :=
      congrArg Option.isSome (agree _ rfl)
    simp only [RegistryStore.answerBy, RegistryStore.answer, same]
    by_cases there : v.registry.organizations.contains o = true
    · simp only [if_pos there]
      refine ⟨trivial, ?_⟩
      rintro _ ⟨⟩
      exact (Table.get?_erase _ _ _).trans ((if_pos rfl).trans
        ((Table.get?_erase _ _ _).trans (if_pos rfl)).symm)
    · simp only [if_neg there]
      exact ⟨trivial, agree⟩
  | getRobot o short =>
    have same : w.registry.robots.get? (robotName o short) =
        v.registry.robots.get? (robotName o short) := agree _ rfl
    exact ⟨by simp only [RegistryStore.answerBy, same], agree⟩
  | createRobot o short =>
    refine ⟨rfl, ?_⟩
    rintro _ ⟨⟩
    exact get?_insert_agree ..
  | getPrototypes o =>
    have same : w.registry.prototypesOf o = v.registry.prototypesOf o := agree _ rfl
    exact ⟨by simp only [RegistryStore.answerBy, RegistryStore.answer, same], agree⟩
  | createPrototype o robot role =>
    have same : w.registry.prototypesOf o = v.registry.prototypesOf o := agree _ rfl
    refine ⟨rfl, ?_⟩
    rintro _ ⟨⟩
    simp only [content, RegistryStore.answerBy, prototypesOf_insert_self, same]
    rfl
  | getRepository o name =>
    have same : w.registry.repositories.contains (qualified o name) =
        v.registry.repositories.contains (qualified o name) := congrArg Option.isSome (agree _ rfl)
    refine ⟨?_, agree⟩
    simp only [RegistryStore.answerBy, same]
  | createRepository o name =>
    refine ⟨rfl, ?_⟩
    rintro _ ⟨⟩
    exact get?_insert_agree ..

theorem answerHonestly_agree
    (agree : ∀ cell, question.cell? = some cell → w.content cell = v.content cell) :
    (w.answerHonestly h question).1 = (v.answerHonestly h question).1 ∧
      ∀ cell, question.cell? = some cell →
        (w.answerHonestly h question).2.content cell =
          (v.answerHonestly h question).2.content cell := by
  cases question with
  | cluster call =>
    obtain ⟨replies, leaves⟩ := cluster_answer_agree agree
    exact ⟨congrArg Except.ok replies, leaves⟩
  | registry call =>
    obtain ⟨replies, leaves⟩ := registry_answerBy_agree (h := h) agree
    exact ⟨congrArg Except.ok replies, leaves⟩
  | connect | publish => exact ⟨rfl, nofun⟩

/-- **The answer hangs on the cell of the question**, and so does what it leaves: worlds that agree in
some cells, this one among them, are answered alike and agree in those cells afterwards. -/
theorem answerBy_agree {S : Cell → Prop} (inside : ∀ cell, question.cell? = some cell → S cell)
    (agree : ∀ cell, S cell → w.content cell = v.content cell) :
    (w.answerBy h m question).1 = (v.answerBy h m question).1 ∧
      ∀ cell, S cell →
        (w.answerBy h m question).2.content cell = (v.answerBy h m question).2.content cell := by
  have left : ∀ (w : World) cell, question.cell? ≠ some cell →
      (w.answerBy h m question).2.content cell = w.content cell := fun w _ elsewhere =>
    content_of_allows (allows_answerBy h m question w) elsewhere
  -- What is not the question's own cell is left as it was in either world.
  have here : (w.answerBy h m question).1 = (v.answerBy h m question).1 ∧
      ∀ cell, question.cell? = some cell →
        (w.answerBy h m question).2.content cell = (v.answerBy h m question).2.content cell := by
    have own : ∀ cell, question.cell? = some cell → w.content cell = v.content cell :=
      fun cell mine => agree cell (inside cell mine)
    unfold answerBy
    cases m.reply? question with
    | some reply => exact ⟨rfl, own⟩
    | none => exact answerHonestly_agree own
  refine ⟨here.1, fun cell mem => ?_⟩
  by_cases own : question.cell? = some cell
  · exact here.2 cell own
  · rw [left w cell own, left v cell own, agree cell mem]

end Agree

end World

end RegistryBridge
