import RegistryBridge.Proofs.Lifetime.Reach
import RegistryBridge.Proofs.Pass.Steady
import RegistryBridge.Proofs.Text.Pieces
import RegistryBridge.Proofs.World.Habits
/-!
# Namespaces are isolated

What is kept for a namespace is kept under names that begin with the namespace's own: its organization
is named after it, robots and repositories after the organization, and secrets and service accounts
lie inside it. As long as the names of namespaces are plain, two of them never share such a name, so
passes over different namespaces have different cells. What they share they only read, unless a pull
secret of one of them takes the place of the credentials.

So passes over different namespaces may take turns in any way: each ends as it would alone.

## Main definitions

* `Plain`: a name without the signs that keys are put together with.
* `NamespacePass.Apart`: namespaces that have nothing in common but what they share.

## Main results

* `NamespacePass.passBy_steady`: a pass goes by the cells of its namespace and the shared ones.
* `NamespacePass.passes_isolated`
-/

namespace RegistryBridge

/-! ## Names that keys begin with -/

/-- **A plain name** has neither of the signs that keys are put together with. Every name that a
cluster accepts for a namespace is plain. -/
structure Plain (name : String) : Prop where
  slash : '/' ∉ name.toList
  plus : '+' ∉ name.toList

section Names

variable {ns ns' name name' clusterId : String}

theorem eq_of_qualified_eq (plain : Plain ns) (plain' : Plain ns')
    (same : qualified ns name = qualified ns' name') : ns = ns' := by
  have texts : ns.toList ++ '/' :: name.toList = ns'.toList ++ '/' :: name'.toList := by
    simpa [qualified] using congrArg String.toList same
  exact String.toList_injective ((Text.append_first_inj plain.slash plain'.slash).mp texts).1

theorem organizationName_injective (clusterId : String) :
    Function.Injective (organizationName clusterId) := by
  intro ns ns' same
  simpa [organizationName] using same

theorem eq_of_robotName_eq (plain : Plain ns) (plain' : Plain ns')
    (same : robotName (organizationName clusterId ns) name =
      robotName (organizationName clusterId ns') name') : ns = ns' := by
  have texts : ns.toList ++ '+' :: name.toList = ns'.toList ++ '+' :: name'.toList := by
    simpa [robotName, organizationName] using congrArg String.toList same
  exact String.toList_injective ((Text.append_first_inj plain.plus plain'.plus).mp texts).1

theorem eq_of_repository_eq (plain : Plain ns) (plain' : Plain ns')
    (same : qualified (organizationName clusterId ns) name =
      qualified (organizationName clusterId ns') name') : ns = ns' := by
  have texts : ns.toList ++ '/' :: name.toList = ns'.toList ++ '/' :: name'.toList := by
    simpa [qualified, organizationName] using congrArg String.toList same
  exact String.toList_injective ((Text.append_first_inj plain.slash plain'.slash).mp texts).1

end Names

namespace NamespacePass

variable {n n' : Namespace} {i : Integration} {h : Habits} {m : Mishaps} {w v after : World}

/-! ## Whose a cell is -/

/-- **A cell belongs to one namespace at most.** -/
theorem Belongs.name_eq {cell : World.Cell} (plain : Plain n.metadata.displayName)
    (plain' : Plain n'.metadata.displayName) (own : Belongs n i cell) (own' : Belongs n' i cell) :
    n.metadata.displayName = n'.metadata.displayName := by
  cases cell with
  | namespaceNamed => exact own.symm.trans own'
  | secret key =>
    obtain ⟨_, -, rfl⟩ := own
    obtain ⟨_, -, same⟩ := own'
    exact eq_of_qualified_eq plain plain' same
  | serviceAccount key =>
    obtain ⟨_, rfl⟩ := own
    obtain ⟨_, same⟩ := own'
    exact eq_of_qualified_eq plain plain' same
  | organization | prototypes => exact organizationName_injective _ (own.symm.trans own')
  | robot key =>
    obtain ⟨_, rfl⟩ := own
    obtain ⟨_, same⟩ := own'
    exact eq_of_robotName_eq plain plain' same
  | repository key =>
    obtain ⟨_, rfl⟩ := own
    obtain ⟨_, same⟩ := own'
    exact eq_of_repository_eq plain plain' same
  | integrations | imageStreams | build => exact own.elim

/-- The secret with the credentials is no pull secret of a namespace. -/
def Spared (n : Namespace) (i : Integration) : Prop :=
  ∀ entry, i.spec.credentials = some entry → ∀ role ∈ roles,
    qualified entry.ns entry.name ≠
      qualified n.metadata.displayName (i.spec.pullSecretName role.1)

/-- What is shared belongs to nobody. -/
theorem Shared.not_belongs {cell : World.Cell} (spared : Spared n i) (shared : Shared i cell) :
    ¬ Belongs n i cell := by
  intro own
  cases cell with
  | secret key =>
    obtain ⟨entry, named, rfl⟩ := shared
    obtain ⟨role, mem, same⟩ := own
    exact spared entry named role mem same
  | integrations | imageStreams => exact own
  | _ => exact shared

/-! ## What a pass goes by -/

/-- **Worlds that a pass over a namespace cannot tell apart**: they agree in its cells and in the shared
ones, and have the one integration. -/
structure Alike (n : Namespace) (i : Integration) (w v : World) : Prop where
  only : w.cluster.integrations = [i]
  cells : ∀ cell, Belongs n i cell ∨ Shared i cell → w.content cell = v.content cell

/-- **How far a pass over a namespace moves a world**: all other cells are left alone. -/
def Moves (n : Namespace) (i : Integration) (w after : World) : Prop :=
  ∀ cell, ¬ Belongs n i cell → after.content cell = w.content cell

theorem Alike.refl (only : w.cluster.integrations = [i]) : Alike n i w w :=
  ⟨only, fun _ _ => rfl⟩

/-- **A pass does not notice what is moved for another namespace.** -/
theorem Moves.unnoticed (moved : Moves n i w after) (spared : Spared n i)
    (apart : ∀ cell, Belongs n' i cell → ¬ Belongs n i cell) (alike : Alike n' i w v) :
    Alike n' i after v := by
  -- Neither its own cells nor the shared ones belong to the other namespace.
  have left : ∀ cell, Belongs n' i cell ∨ Shared i cell → after.content cell = w.content cell :=
    fun cell mine => moved cell (mine.elim (apart cell) (Shared.not_belongs spared))
  have integrations : after.cluster.integrations = w.cluster.integrations :=
    left .integrations (.inr trivial)
  exact ⟨integrations.trans alike.only, fun cell mine => (left cell mine).trans (alike.cells cell mine)⟩

/-- **A question about its cells**, and about the shared ones only to read them, is answered alike in
worlds that the pass cannot tell apart. -/
theorem Alike.answerBy {question : Question} (alike : Alike n i w v)
    (concerns : ∀ cell, question.cell? = some cell →
      Belongs n i cell ∨ Shared i cell ∧ question.isQuiet = true) :
    Moves n i w (w.answerBy h m question).2 ∧
      Alike n i (w.answerBy h m question).2 (v.answerBy h m question).2 ∧
        (w.answerBy h m question).1 = (v.answerBy h m question).1 := by
  have allowed := World.allows_answerBy h m question w
  have inside : ∀ cell, question.cell? = some cell → Belongs n i cell ∨ Shared i cell :=
    fun cell here => (concerns cell here).imp_right And.left
  obtain ⟨answered, cells⟩ := World.answerBy_agree (h := h) (m := m) inside alike.cells
  refine ⟨fun cell foreign => ?_, ⟨?_, cells⟩, answered⟩
  · -- A question about a cell of somebody else is about a shared one, and only reads it.
    by_cases here : question.cell? = some cell
    · rcases concerns cell here with own | ⟨-, quiet⟩
      · exact absurd own foreign
      · rw [World.eq_of_quiet allowed quiet]
    · exact World.content_of_allows allowed here
  · exact (World.integrations_of_allows allowed).trans alike.only

theorem integration_steady {object : ObjectReference} :
    (Pass.integration object).Steady (World.answerBy h m) (Alike n i) (Moves n i) (· = i) := by
  have told : ∀ w v, Alike n i w v → ∀ all : List Integration,
      (w.answerBy h m (.cluster .listIntegrations)).1 = .ok all → all = [i] := by
    intro w v alike all given
    rw [← alike.only]
    exact World.eq_of_answerBy_cluster given
  refine .bind (.cluster (fun _ _ alike => alike.answerBy ?_) told) ?_
  · rintro _ ⟨⟩
    exact .inr ⟨trivial, rfl⟩
  · rintro _ rfl
    exact .of fun value counted => (Except.ok.inj counted).symm

/-- **A pass goes by the cells of its namespace** and by the shared ones. -/
theorem passBy_steady (turns : Turns) (n : Namespace) :
    (passBy turns n).Steady (World.answerBy h m) (Alike n i) (Moves n i) fun _ => True := by
  have run : (stepBy turns n).Steady (World.answerBy h m) (Alike n i) (Moves n i)
      fun _ => True := by
    -- From here on the integration is known, and with it what the pass may ask.
    refine integration_steady.bind ?_
    rintro _ rfl
    exact .of_only (inPhaseBy_asks turns _) fun _ asks _ _ alike =>
      alike.answerBy fun _ here => asks.cell here
  refine Program.Steady.bind run fun result _ => ?_
  cases result with
  | ok action => trivial
  | error failure =>
    exact Program.Steady.call (fun _ _ alike => alike.answerBy (by rintro _ ⟨⟩)) fun _ _ _ => trivial

/-! ## Namespaces that have nothing in common -/

section Apart

variable {ι : Type} {n : ι → Namespace}

/-- **Namespaces that have nothing in common** but what all of them share: their names are plain and
not the same, and none of them has the credentials for a pull secret. -/
structure Apart (n : ι → Namespace) (i : Integration) : Prop where
  plain : ∀ a, Plain (n a).metadata.displayName
  distinct : ∀ a b, a ≠ b → (n a).metadata.displayName ≠ (n b).metadata.displayName
  spared : ∀ a, Spared (n a) i

/-- What belongs to none of some namespaces is left alone by what is moved for them. -/
theorem content_of_moves {cell : World.Cell}
    (moved : Relation.ReflTransGen (fun w after => ∃ a, Moves (n a) i w after) w after)
    (foreign : ∀ a, ¬ Belongs (n a) i cell) : after.content cell = w.content cell := by
  induction moved with
  | refl => rfl
  | tail _ last ih =>
    obtain ⟨a, moved⟩ := last
    exact (moved cell (foreign a)).trans ih

variable [DecidableEq ι]

/-- **Each pass ends as it would alone**, and so do the cells that it goes by; and no other cells are
touched. -/
theorem Apart.alone (apart : Apart n i) (turns : ι → Turns) (h : Habits) (m : Mishaps)
    (only : w.cluster.integrations = [i]) {woven : Program Bridge (ι → Except Failure Action)}
    (weaves : Program.Weaves (fun a => passBy (turns a) (n a)) woven) :
    (∀ a, (World.runBy h m woven w).1 a = (World.runBy h m (passBy (turns a) (n a)) w).1 ∧
      Alike (n a) i (World.runBy h m woven w).2
        (World.runBy h m (passBy (turns a) (n a)) w).2) ∧
      ∀ cell, (∀ a, ¬ Belongs (n a) i cell) →
        (World.runBy h m woven w).2.content cell = w.content cell := by
  have steady : ∀ a, (passBy (turns a) (n a)).Steady (World.answerBy h m) (Alike (n a) i)
      (Moves (n a) i) fun _ => True := fun a => passBy_steady (turns a) (n a)
  have unnoticed : ∀ a b, a ≠ b → ∀ w after v, Moves (n a) i w after → Alike (n b) i w v →
      Alike (n b) i after v := by
    intro a b hne w after v moved alike
    refine moved.unnoticed (apart.spared a) (fun cell own own' => apart.distinct a b hne ?_) alike
    exact own'.name_eq (apart.plain a) (apart.plain b) own
  obtain ⟨each, moved⟩ := weaves.run_alone steady unnoticed w (fun _ => w) fun _ => .refl only
  exact ⟨each, fun cell foreign => content_of_moves moved foreign⟩

/-- **Namespaces are isolated.** Once it knows the integration, a pass calls the registry about the
organization of its namespace only, writes in the cluster nothing but the namespace and what lies
inside it, and tells of nothing else, whatever it is told. So passes over different namespaces may
take turns in any way, whatever the registry's habits are and whichever calls fail: each has the
result, and all that is stored is as it is, when they come one after another, in whatever order. -/
theorem passes_isolated (n : ι → Namespace) (i : Integration) (turns : ι → Turns) :
    (∀ a, ∃ next, passBy (turns a) (n a) = .ask (.cluster .listIntegrations) next ∧
      (next (.ok [i] : Except OperationError (List Integration))).Only (Confined (n a) i)) ∧
    ∀ (h : Habits) (m : Mishaps) (w : World), Apart n i → w.cluster.integrations = [i] →
      ∀ woven, Program.Weaves (fun a => passBy (turns a) (n a)) woven →
        ∀ (order : List ι) (values : ι → Except Failure Action),
          order.Nodup → (∀ a, a ∈ order) →
            let together := World.runBy h m woven w
            let inTurn := World.runBy h m
              (Program.inTurn (fun a => passBy (turns a) (n a)) order values) w
            together.1 = inTurn.1 ∧ ∀ cell, together.2.content cell = inTurn.2.content cell := by
  refine ⟨fun a => ?_, ?_⟩
  · obtain ⟨next, opens, onward⟩ := passBy_opens (turns a) (n a)
    refine ⟨next, opens, ?_⟩
    rw [onward]
    have asks := (inPhaseBy_asks (n := n a) (i := i) (turns a) (phase (n a) i)).mono
      fun _ asks => Asks.confined asks
    exact Pass.reporting_only asks (inPhaseBy_loses (turns a) _) fun failure lost => lost.regards
  · intro h m w apart only woven weaves order values nodup complete
    -- One after another is a way to take turns as well, so both runs are compared with the passes
    -- alone.
    have oneByOne : Program.Weaves (fun a => passBy (turns a) (n a))
        (Program.inTurn (fun a => passBy (turns a) (n a)) order values) :=
      Program.weaves_inTurn nodup fun a absent => absurd (complete a) absent
    obtain ⟨each, rest⟩ := apart.alone turns h m only weaves
    obtain ⟨each', rest'⟩ := apart.alone turns h m only oneByOne
    refine ⟨funext fun a => (each a).1.trans (each' a).1.symm, fun cell => ?_⟩
    by_cases owned : ∃ a, Belongs (n a) i cell
    · obtain ⟨a, own⟩ := owned
      exact ((each a).2.cells cell (.inl own)).trans ((each' a).2.cells cell (.inl own)).symm
    · have foreign : ∀ a, ¬ Belongs (n a) i cell := fun a own => owned ⟨a, own⟩
      exact (rest cell foreign).trans (rest' cell foreign).symm

end Apart

/-! ## Two namespaces side by side -/

/-- A namespace beside the one that was provisioned in part, and not yet taken in. -/
def till : Namespace :=
  { metadata := { name := some "till" } }

/-- The two of them. -/
def shopAndTill (second : Bool) : Namespace :=
  if second then till else shop

theorem apart_shopAndTill : Apart shopAndTill acme where
  plain second := by cases second <;> constructor <;> decide
  distinct := by decide
  spared second := by
    rintro entry ⟨⟩
    cases second <;> decide

/-- Whichever of the two comes first, it comes to the same. -/
theorem shop_isolated :
    begun.cluster.integrations = [acme] ∧ Apart shopAndTill acme ∧ ∀ values,
      let shopFirst := World.runBy .usual .none
        (Program.inTurn (fun second => passBy .inOrder (shopAndTill second)) [false, true] values)
        begun
      let tillFirst := World.runBy .usual .none
        (Program.inTurn (fun second => passBy .inOrder (shopAndTill second)) [true, false] values)
        begun
      shopFirst.1 = tillFirst.1 ∧
        ∀ cell, shopFirst.2.content cell = tillFirst.2.content cell := by
  refine ⟨rfl, apart_shopAndTill, fun values => ?_⟩
  have weaves : Program.Weaves (fun second => passBy .inOrder (shopAndTill second))
      (Program.inTurn (fun second => passBy .inOrder (shopAndTill second)) [false, true] values) :=
    Program.weaves_inTurn (by decide) fun second absent => absurd absent (by cases second <;> decide)
  exact (passes_isolated shopAndTill acme fun _ => .inOrder).2 .usual .none begun apart_shopAndTill
    rfl _ weaves [true, false] values (by decide) (by decide)

end NamespacePass

end RegistryBridge
