import RegistryBridge.Proofs.World.Quiet
/-!
# The cells of a world

What a cluster and a registry store lies in cells: one for every object by its key, and one for each
list that is only kept as a whole. A question concerns one cell at most. It reads that cell or writes
it, and whether it is answered or fails, no other cell changes.

## Main definitions

* `World.Cell`, `World.content`: the cells of a world and what they hold.
* `Question.cell?`: the cell that a question concerns.

## Main results

* `World.content_of_allows`: a question changes no other cell.
* `World.eq_of_quiet`: a quiet question changes nothing at all.
-/

namespace RegistryBridge

/-- **A cell of a world.** -/
inductive World.Cell where
  | integrations
  | imageStreams
  | namespaceNamed (name : String)
  | secret (key : String)
  | serviceAccount (key : String)
  | build (key : String)
  | organization (name : String)
  | robot (key : String)
  | prototypes (organization : String)
  | repository (key : String)
  deriving DecidableEq, Repr

namespace World

/-- What a cell may hold. -/
def Cell.Content : Cell → Type
  | integrations => List Integration
  | imageStreams => List ImageStream
  | namespaceNamed _ => Option Namespace
  | secret _ => Option Secret
  | serviceAccount _ => Option ServiceAccount
  | build _ => Option Json
  | organization _ => Option Unit
  | robot _ => Option Registry.Robot
  | prototypes _ => List Registry.Prototype
  | repository _ => Option Unit

/-- **What a cell holds.** -/
def content (w : World) : (cell : Cell) → cell.Content
  | .integrations => w.cluster.integrations
  | .imageStreams => w.cluster.imageStreams
  | .namespaceNamed name => w.cluster.namespaces.get? name
  | .secret key => w.cluster.secrets.get? key
  | .serviceAccount key => w.cluster.serviceAccounts.get? key
  | .build key => w.cluster.builds.get? key
  | .organization name => w.registry.organizations.get? name
  | .robot key => w.registry.robots.get? key
  | .prototypes organization => w.registry.prototypesOf organization
  | .repository key => w.registry.repositories.get? key

end World

/-- The cell that a call of the cluster concerns. -/
def ClusterCall.cell? : ClusterCall → Option World.Cell
  | listIntegrations => some .integrations
  | getSecret ns name => some (.secret (qualified ns name))
  | applySecret secret => some (.secret secret.metadata.key)
  | getServiceAccount ns name | linkServiceAccount ns name _ =>
    some (.serviceAccount (qualified ns name))
  | listImageStreams _ | getImageStream .. => some .imageStreams
  | holdFinalizer name _ | releaseFinalizer name _ => some (.namespaceNamed name)
  | noteBuild ns name _ _ => some (.build (qualified ns name))
  | createImport _ | reportStatus .. => none

/-- The cell that a call of the registry concerns. -/
def RegistryCall.cell? : RegistryCall → Option World.Cell
  | getOrganization o | createOrganization o | deleteOrganization o => some (.organization o)
  | getRobot o short | createRobot o short => some (.robot (robotName o short))
  | getPrototypes o | createPrototype o _ _ => some (.prototypes o)
  | getRepository o name | createRepository o name => some (.repository (qualified o name))

/-- **The cell that a question concerns**, if it concerns one. -/
def Question.cell? : Question → Option World.Cell
  | cluster call => call.cell?
  | registry call => call.cell?
  | connect .. | publish _ => none

namespace World

variable {w after : World} {cell : Cell}

/-! ## Where nothing is written -/

/-- A prototype that is added to one organization is not added to another one. -/
theorem prototypesOf_insert_of_ne {store : RegistryStore} {o other : String} (hne : other ≠ o)
    (list : List Registry.Prototype) :
    ({ store with prototypes := store.prototypes.insert o list } : RegistryStore).prototypesOf other =
      store.prototypesOf other := by
  simp only [RegistryStore.prototypesOf, Table.get?_insert_of_ne _ _ hne]

theorem prototypesOf_insert_self {store : RegistryStore} {o : String}
    (list : List Registry.Prototype) :
    ({ store with prototypes := store.prototypes.insert o list } : RegistryStore).prototypesOf o =
      list := by
  simp only [RegistryStore.prototypesOf, Table.get?_insert_self, Option.getD_some]

/-- A call of the cluster changes no cell but its own. -/
theorem content_of_cluster {call : ClusterCall} (elsewhere : call.cell? ≠ some cell) :
    ({ w with cluster := (w.cluster.answer call).2 } : World).content cell = w.content cell := by
  have other : ∀ {key key' : String} (make : String → Cell), call.cell? = some (make key') →
      cell = make key → key ≠ key' := by
    rintro key key' make here rfl rfl
    exact elsewhere here
  cases call with
  | applySecret secret =>
    cases cell with
    | secret key => exact Table.get?_insert_of_ne _ _ (other .secret rfl rfl)
    | _ => rfl
  | linkServiceAccount ns name links =>
    cases cell with
    | serviceAccount key =>
      exact Table.get?_insert_of_ne _ _ (other .serviceAccount rfl rfl)
    | _ => rfl
  | holdFinalizer name finalizer =>
    simp only [ClusterStore.answer, ClusterStore.held]
    split
    · cases cell with
      | namespaceNamed key =>
        exact Table.get?_insert_of_ne _ _ (other .namespaceNamed rfl rfl)
      | _ => rfl
    · rfl
  | releaseFinalizer name finalizer =>
    simp only [ClusterStore.answer, ClusterStore.released]
    split
    · cases cell with
      | namespaceNamed key =>
        exact Table.get?_insert_of_ne _ _ (other .namespaceNamed rfl rfl)
      | _ => rfl
    · rfl
  | noteBuild ns name key value =>
    simp only [ClusterStore.answer, ClusterStore.noted]
    split
    · cases cell with
      | build key => exact Table.get?_insert_of_ne _ _ (other .build rfl rfl)
      | _ => rfl
    · rfl
  | _ => rfl

/-- An honest answer of the registry changes no cell but that of its call. -/
theorem content_of_registry {call : RegistryCall} {response : Registry.Response call.Value}
    {registry : RegistryStore} (honest : w.registry.Honest call response registry)
    (elsewhere : call.cell? ≠ some cell) :
    ({ w with registry } : World).content cell = w.content cell := by
  have other : ∀ {key key' : String} (make : String → Cell), call.cell? = some (make key') →
      cell = make key → key ≠ key' := by
    rintro key key' make here rfl rfl
    exact elsewhere here
  cases call with
  | createOrganization o =>
    obtain ⟨-, rfl⟩ := honest
    cases cell with
    | organization key => exact Table.get?_insert_of_ne _ _ (other .organization rfl rfl)
    | _ => rfl
  | deleteOrganization o =>
    simp only [RegistryStore.Honest] at honest
    split at honest
    · obtain ⟨-, rfl⟩ := honest
      cases cell with
      | organization key =>
        exact (Table.get?_erase _ _ _).trans (if_neg (other .organization rfl rfl))
      | _ => rfl
    · obtain ⟨-, rfl⟩ := honest
      rfl
  | createRobot o short =>
    obtain ⟨robot, -, rfl⟩ := honest
    cases cell with
    | robot key => exact Table.get?_insert_of_ne _ _ (other .robot rfl rfl)
    | _ => rfl
  | createPrototype o robot role =>
    obtain ⟨-, prototype, -, rfl⟩ := honest
    cases cell with
    | prototypes o' => exact prototypesOf_insert_of_ne (other .prototypes rfl rfl) _
    | _ => rfl
  | createRepository o name =>
    obtain ⟨-, rfl⟩ := honest
    cases cell with
    | repository key => exact Table.get?_insert_of_ne _ _ (other .repository rfl rfl)
    | _ => rfl
  | getOrganization | getRobot | getPrototypes | getRepository =>
    obtain ⟨-, rfl⟩ := honest
    rfl

/-- An honest answer changes no cell but that of the question. -/
theorem content_of_honest {question : Question} {reply : question.Answer}
    (honest : w.Honest question reply after) (elsewhere : question.cell? ≠ some cell) :
    after.content cell = w.content cell := by
  cases question with
  | cluster call =>
    obtain ⟨-, rfl⟩ := honest
    exact content_of_cluster elsewhere
  | registry call =>
    obtain ⟨response, registry, honest, -, rfl⟩ := honest
    exact content_of_registry honest elsewhere
  | connect =>
    obtain ⟨-, rfl⟩ := honest
    rfl
  | publish =>
    obtain rfl := honest
    rfl

section Allows

variable {faults : Prop} {question : Question} {reply : question.Answer}

/-- Where nothing fails, nothing is answered that may not be answered where calls may fail. -/
theorem allows_with_faults (allowed : (World.conduct False).allows question w reply after) :
    (World.conduct True).allows question w reply after := by
  rcases allowed with honest | ⟨never, -⟩
  · exact .inl honest
  · exact never.elim

/-- **A question changes no cell but the one that it concerns**, whether it is answered or fails. -/
theorem content_of_allows (allowed : (World.conduct faults).allows question w reply after)
    (elsewhere : question.cell? ≠ some cell) : after.content cell = w.content cell := by
  rcases eq_or_honest_of_allows allowed with rfl | ⟨_, honest⟩
  · rfl
  · exact content_of_honest honest elsewhere

/-- A quiet question leaves the world as it is. -/
theorem eq_of_quiet (allowed : (World.conduct faults).allows question w reply after)
    (quiet : question.isQuiet = true) : after = w := by
  rcases eq_or_honest_of_allows allowed with rfl | ⟨_, honest⟩
  · rfl
  · cases question with
    | cluster call =>
      obtain ⟨-, rfl⟩ := honest
      rw [w.cluster.answer_of_read (by simpa [Question.isQuiet] using quiet)]
    | registry call =>
      obtain ⟨response, registry, honest, -, rfl⟩ := honest
      rw [honest.eq_of_read (by simpa [Question.isQuiet] using quiet)]
    | connect => exact honest.2
    | publish => cases quiet

/-- No question writes the list of integrations. -/
theorem integrations_of_allows (allowed : (World.conduct faults).allows question w reply after) :
    after.cluster.integrations = w.cluster.integrations := by
  by_cases here : question.cell? = some .integrations
  · cases question with
    | cluster call =>
      cases call with
      | listIntegrations =>
        obtain rfl := eq_of_quiet allowed rfl
        rfl
      | _ => cases here
    | registry call => cases call <;> cases here
    | connect | publish => cases here
  · exact content_of_allows allowed here

end Allows

end World

end RegistryBridge
