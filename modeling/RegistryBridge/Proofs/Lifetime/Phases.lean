import Mathlib.Tactic.SplitIfs
import RegistryBridge.Proofs.Lifetime.Reach
/-!
# What a pass over a namespace does in which phase

The policy of an integration takes a namespace or leaves it alone, by two lists of names. Together with
the finalizers, the annotations and the deletion of the namespace it says which phase the namespace is
in, and the phase says what a pass may do at all: nothing, one write, or calls of the registry.

## Main definitions

* `NamespacePolicy.Takes`: what the policy says of a namespace, in terms of its lists.
* `NamespacePhase.Is`: what is true of a namespace in each phase.
* `Turns.relisted`: the same turns, whatever lists an integration has.
* `NamespacePass.Gated`: what is true of a pass once there is one integration.

## Main results

* `NamespacePolicy.allows_iff`, `NamespacePhase.is_of`
* `NamespacePass.passBy_iff`: how a pass goes on once it knows the integration.
* `NamespacePass.passBy_gated`
-/

namespace RegistryBridge

/-! ## The policy -/

/-- **The platform's own namespaces**, by their names or by what their names begin with. -/
def Platform (ns : String) : Prop :=
  ns = "default" ∨ ns = "openshift" ∨ ns = "management-infra" ∨
    (∃ rest, ns = "openshift-" ++ rest) ∨ ∃ rest, ns = "kube-" ++ rest

/-- A name begins with a stem when it is the stem with something behind it. -/
theorem isPrefixOf_toList_iff {stem ns : String} :
    stem.toList.isPrefixOf ns.toList = true ↔ ∃ rest, ns = stem ++ rest := by
  rw [List.isPrefixOf_iff_prefix]
  constructor
  · rintro ⟨rest, h⟩
    refine ⟨String.ofList rest, String.toList_injective ?_⟩
    rw [String.toList_append, String.toList_ofList, h]
  · rintro ⟨rest, rfl⟩
    rw [String.toList_append]
    exact List.prefix_append _ _

theorem isReserved_iff {ns : String} : isReserved ns = true ↔ Platform ns := by
  simp only [isReserved, reservedNames, reservedStems, List.contains_eq_mem, List.any_cons,
    List.any_nil, Bool.or_false, Bool.or_eq_true, decide_eq_true_eq, List.mem_cons,
    List.not_mem_nil, or_false, isPrefixOf_toList_iff, Platform, or_assoc]

namespace NamespacePolicy

variable {policy policy' : NamespacePolicy} {ns : String}

/-- **The namespaces that a policy takes**: those that it lists; and where it lists none, all that are
neither denied nor the platform's own. -/
def Takes (policy : NamespacePolicy) (ns : String) : Prop :=
  ns ∈ policy.allowed ∨ policy.allowed = [] ∧ ns ∉ policy.denied ∧ ¬ Platform ns

theorem allows_iff : policy.allows ns = true ↔ policy.Takes ns := by
  rw [Takes, ← isReserved_iff]
  simp only [allows, List.contains_eq_mem, Bool.or_eq_true, Bool.and_eq_true, Bool.not_eq_true',
    decide_eq_true_eq, decide_eq_false_iff_not, List.isEmpty_iff, Bool.not_eq_true]
  exact or_congr_right and_comm

/-- **A policy goes by which names its lists have**, not by their order or how often they come. -/
theorem allows_congr (allowed : ∀ ns, ns ∈ policy.allowed ↔ ns ∈ policy'.allowed)
    (denied : ∀ ns, ns ∈ policy.denied ↔ ns ∈ policy'.denied) :
    policy.allows ns = policy'.allows ns := by
  have none : policy.allowed = [] ↔ policy'.allowed = [] := by
    simp only [List.eq_nil_iff_forall_not_mem, allowed]
  rw [Bool.eq_iff_iff, allows_iff, allows_iff, Takes, Takes, allowed, denied, none]

end NamespacePolicy

/-! ## The phases -/

/-- **What is true of a namespace in each phase.** -/
inductive NamespacePhase.Is (n : Namespace) (allowed : Bool) : NamespacePhase → Prop
  | unmanaged (living : n.metadata.deleting = false) (left : allowed = false) :
    Is n allowed .unmanaged
  | initializing (living : n.metadata.deleting = false) (taken : allowed = true)
    (free : n.metadata.finalizedBy Marks.finalizer = false) (unready : isUnready n = true) :
    Is n allowed .initializing
  | pending (living : n.metadata.deleting = false) (taken : allowed = true)
    (free : n.metadata.finalizedBy Marks.finalizer = false) (ready : isUnready n = false) :
    Is n allowed .pending
  | managed (living : n.metadata.deleting = false) (taken : allowed = true)
    (held : n.metadata.finalizedBy Marks.finalizer = true) : Is n allowed .managed
  | terminating (deleting : n.metadata.deleting = true)
    (held : n.metadata.finalizedBy Marks.finalizer = true) : Is n allowed .terminating
  | gone (deleting : n.metadata.deleting = true)
    (free : n.metadata.finalizedBy Marks.finalizer = false) : Is n allowed .gone

theorem NamespacePhase.is_of (n : Namespace) (allowed : Bool) : Is n allowed (of n allowed) := by
  unfold of
  dsimp only
  split_ifs with deleting held taken held unready
  · exact .terminating deleting held
  · exact .gone deleting (Bool.eq_false_iff.mpr held)
  · exact .managed (Bool.eq_false_iff.mpr deleting) taken held
  · exact .initializing (Bool.eq_false_iff.mpr deleting) taken (Bool.eq_false_iff.mpr held) unready
  · exact .pending (Bool.eq_false_iff.mpr deleting) taken (Bool.eq_false_iff.mpr held)
      (Bool.eq_false_iff.mpr unready)
  · exact .unmanaged (Bool.eq_false_iff.mpr deleting) (Bool.eq_false_iff.mpr taken)

theorem NamespacePhase.Is.eq_terminating {n : Namespace} {allowed : Bool} {phase : NamespacePhase}
    (is : Is n allowed phase) (deleting : n.metadata.deleting = true)
    (held : n.metadata.finalizedBy Marks.finalizer = true) : phase = .terminating := by
  cases is with
  | unmanaged living | initializing living | pending living | managed living =>
    exact absurd (deleting.symm.trans living) nofun
  | terminating => rfl
  | gone _ free => exact absurd (held.symm.trans free) nofun

/-! ## Other lists of namespaces -/

namespace Provisioning

variable {p : Provisioning}

/-- The same, with other lists of namespaces. -/
def relisted (p : Provisioning) (allowed denied : List String) : Provisioning :=
  { p with spec := { p.spec with allowed, denied } }

theorem linkStep_relisted (allowed denied : List String) (account : String) :
    (p.relisted allowed denied).linkStep account = p.linkStep account := by
  have same : (p.relisted allowed denied).spec.pullSecretName account =
      p.spec.pullSecretName account := rfl
  simp only [linkStep, same]
  refine congrArg (Bind.bind (Step.cluster (.getServiceAccount p.ns account) _))
    (funext fun (found : Option ServiceAccount) => ?_)
  cases found with
  | none => rfl
  | some existing =>
    dsimp only
    cases existing.linksWith (p.spec.pullSecretName account) with
    | none => rfl
    | some links => rfl

/-- What is done for a service account goes by no list of namespaces. -/
theorem roleProgram_relisted (allowed denied : List String) :
    (p.relisted allowed denied).roleProgram = p.roleProgram := by
  funext role
  simp only [roleProgram, roleStep, linkStep_relisted]
  rfl

end Provisioning

/-- **The same turns**, when an integration has other lists of namespaces. -/
def Turns.relisted (turns : Turns) (allowed denied : List String) : Turns where
  woven p := turns.woven (p.relisted allowed denied)
  weaves p := by
    have weaves := turns.weaves (p.relisted allowed denied)
    rwa [Provisioning.roleProgram_relisted] at weaves

/-! ## Kinds of questions -/

/-- Whether a question is a write, of the cluster or of the registry. -/
def Question.writes : Question → Bool
  | cluster call => call.isWrite
  | registry call => call.isWrite
  | connect .. | publish _ => false

/-- Whether a question goes to the registry. -/
def Question.isRemote : Question → Bool
  | connect .. | registry _ => true
  | cluster _ | publish _ => false

/-- Whether a finalizer is to be put on a namespace. -/
def Question.holds : Question → Bool
  | cluster (.holdFinalizer ..) => true
  | _ => false

/-- There is one integration. -/
abbrev Exchange.listed (i : Integration) : Exchange Bridge :=
  .cluster .listIntegrations (.ok [i])

namespace NamespacePass

open Transcript (Then)

variable {turns : Turns} {n : Namespace} {i : Integration} {result : Except Failure Action}
  {rest t : Transcript Bridge} {object : ObjectReference} {spec : IntegrationSpec} {name : String}

/-! ## How a pass goes on -/

/-- **How a pass goes on** once it knows the integration. -/
theorem passBy_iff :
    (passBy turns n).Ends (.script Bridge) [] result (.listed i :: rest) ↔
      (Pass.reporting (inPhaseBy turns (Resource.reference n) i.spec n.metadata.displayName
        (phase n i))).Ends (.script Bridge) [.listed i] result ([.listed i] ++ rest) := by
  obtain ⟨next, opens, goesOn⟩ := passBy_opens turns n
  rw [opens, ← goesOn i]
  constructor
  · intro run
    -- What is heard first settles the first answer, so the rest is what follows on it.
    cases run with
    | ask allowed later =>
      obtain rfl := allowed
      obtain ⟨more, same, -⟩ := later.carried
      obtain ⟨⟨⟩, -⟩ := List.cons.inj same
      exact later
  · exact fun later => .answered (Except.ok [i] : Except OperationError (List Integration)) later

/-- What a pass does in a phase goes by no list of namespaces. -/
theorem inPhaseBy_relisted (allowed denied : List String) (phase : NamespacePhase) :
    inPhaseBy (turns.relisted spec.allowed spec.denied) object { spec with allowed, denied } name
      phase = inPhaseBy turns object spec name phase := by
  cases phase with
  | managed =>
    refine congrArg (Bind.bind (Pass.connect object spec)) (funext fun _ => ?_)
    dsimp only
    cases Registry.host spec.hostname with
    | error e => rfl
    | ok host => rfl
  | unmanaged | initializing | pending | terminating | gone => rfl

/-! ## What is asked in which phase -/

/-- **Where the finalizer is put on a namespace**, nothing else is done but to tell of it. -/
theorem takeIn_script :
    (Pass.reporting (takeIn object spec name)).Always (.script Bridge) (fun (_ : Question) _ => True)
      (fun _ last => ∃ reply event,
        last = t ++ [.cluster (.holdFinalizer name Marks.finalizer) reply, .published event]) t := by
  refine Pass.always_reporting_script ?_
  rw [takeIn, Step.always_bind, Step.always_cluster_script]
  refine ⟨trivial, fun value => ?_, fun e => ⟨trivial, .error e, _, List.append_assoc ..⟩⟩
  rw [Step.always_bind, Step.always_tell_script]
  exact ⟨trivial, .ok value, _, List.append_assoc ..⟩

/-- Where a namespace is provisioned, no finalizer is put on it. -/
theorem provisionBy_never_holds :
    (provisionBy turns object spec name).Only fun question => question.holds = false := by
  refine .bind (Pass.connect_only.mono fun _ first => ?_) fun _ => ?_
  · cases first <;> rfl
  · cases Registry.host spec.hostname with
    | error e => exact .fail _
    | ok host =>
      have provisions := Provisioning.stepsBy_only (p := { object, ns := name, host, spec }) turns
      exact .bind (provisions.mono fun _ asks => by cases asks <;> rfl) fun _ => .pure _

/-- **What may be written when a namespace is let go**: its organization is deleted, and its finalizer
is released. -/
def Dismantles (spec : IntegrationSpec) (name : String) (question : Question) : Prop :=
  question.writes = true →
    question = .registry (.deleteOrganization (spec.organization name)) ∨
      question = .cluster (.releaseFinalizer name Marks.finalizer)

theorem release_dismantles :
    (release object spec name).Only (Dismantles spec name) := by
  have quiet : ∀ {question : Question}, question.writes = false → Dismantles spec name question :=
    fun reads writes => absurd (reads.symm.trans writes) nofun
  refine .bind (Pass.connect_only.mono fun _ first => ?_) fun _ => .bind ?_ fun _ => ?_
  · cases first <;> exact quiet rfl
  · refine .bind (.registry (quiet rfl)) fun found => .ite (.pure _) (.ite ?_ (.fail _))
    refine .bind (.registry fun _ => .inl rfl) fun gone => ?_
    exact .ite (.bind (.fail _) fun _ => .tell (quiet rfl)) (.tell (quiet rfl))
  · exact .bind (.cluster fun _ => .inr rfl) fun _ => .pure _

/-! ## How a namespace is let go -/

/-- **The registry cannot be connected**, since no token is to be had: the integration names no
secret, or the secret is not there, or it holds no token. -/
def Uncredited (spec : IntegrationSpec) (t : Transcript Bridge) : Prop :=
  spec.credentials = none ∨ ∃ entry, spec.credentials = some entry ∧
    (.cluster (.getSecret entry.ns entry.name) (.ok none) ∈ t ∨
      ∃ secret e, .cluster (.getSecret entry.ns entry.name) (.ok (some secret)) ∈ t ∧
        Credentials.token secret entry = .error e)

/-- A step of a pass has come to nothing for a reason that was heard. -/
def Excused (spec : IntegrationSpec) (t : Transcript Bridge) : Prop :=
  Uncredited spec t ∨ ∃ e ∈ t, e.Fails

theorem failed_snoc {last : Exchange Bridge} (fails : last.Fails) : ∃ e ∈ t ++ [last], e.Fails :=
  ⟨last, by simp, fails⟩

theorem Excused.grow (h : Excused spec t) (more : Transcript Bridge) : Excused spec (t ++ more) := by
  rcases h with (none | ⟨entry, named, absent | ⟨secret, e, read, malformed⟩⟩) | ⟨e, mem, fails⟩
  · exact .inl (.inl none)
  · exact .inl (.inr ⟨entry, named, .inl (List.mem_append_left _ absent)⟩)
  · exact .inl (.inr ⟨entry, named, .inr ⟨secret, e, List.mem_append_left _ read, malformed⟩⟩)
  · exact .inr ⟨e, List.mem_append_left _ mem, fails⟩

theorem connect_excused :
    (Pass.connect object spec).Always (.script Bridge) (fun _ _ => True) (fun _ _ => True)
      (fun _ after => Excused spec after) t := by
  unfold Pass.connect
  cases named : spec.credentials with
  | none => exact .inl (.inl named)
  | some entry =>
    dsimp only
    rw [Step.always_bind, Step.always_cluster_script]
    refine ⟨trivial, fun found => ?_, fun e => .inr (failed_snoc (Exchange.fails_cluster_error ..))⟩
    cases found with
    | none => exact .inl (.inr ⟨entry, named, .inl (by simp)⟩)
    | some secret =>
      dsimp only
      cases read : Credentials.token secret entry with
      | error e => exact .inl (.inr ⟨entry, named, .inr ⟨secret, e, by simp, read⟩⟩)
      | ok token =>
        refine ⟨trivial, ?_⟩
        rintro (e | ⟨⟩) _ rfl
        · exact .inr (failed_snoc (Exchange.fails_connect_error ..))
        · trivial

theorem dropOrganization_failed (organization : String) :
    (dropOrganization object organization).Always (.script Bridge) (fun (_ : Question) _ => True)
      (fun _ _ => True) (fun _ after => ∃ e ∈ after, e.Fails) t := by
  unfold dropOrganization
  dsimp only
  rw [Step.always_bind, Step.always_registry_script]
  refine ⟨trivial, fun found => ?_, fun e => failed_snoc (Exchange.fails_registry_error ..)⟩
  refine .ite (fun _ => trivial) fun missing => .ite (fun there => ?_) fun other => ?_
  · rw [Step.always_bind, Step.always_registry_script]
    refine ⟨trivial, fun gone => ?_, fun e => failed_snoc (Exchange.fails_registry_error ..)⟩
    split
    · refine failed_snoc ((Exchange.fails_registry_ok _ _).mpr ?_)
      simpa [RegistryCall.telling] using ‹gone.status ≠ 204›
    · rw [Step.always_tell_script]
      exact ⟨trivial, trivial⟩
  · refine failed_snoc ((Exchange.fails_registry_ok _ _).mpr ?_)
    simp [RegistryCall.telling, missing, other]

/-- **A namespace is kept** only for a reason that was heard. -/
theorem release_excused :
    (release object spec name).Always (.script Bridge) (fun (_ : Question) _ => True)
      (fun _ _ => True) (fun _ after => Excused spec after) t := by
  refine (Step.always_bind _ _).mpr (connect_excused.mono (fun _ _ => id) ?_ fun _ _ => id)
  rintro _ t -
  refine (Step.always_bind _ _).mpr ((dropOrganization_failed _).mono (fun _ _ => id) ?_
    fun _ _ => .inr)
  rintro _ t -
  refine (Step.always_bind _ _).mpr ((Step.always_cluster_script _ _).mpr ⟨trivial, ?_, ?_⟩)
  · exact fun _ => trivial
  · exact fun e => .inr (failed_snoc (Exchange.fails_cluster_error ..))

/-! ## A whole pass -/

/-- **What is true when a namespace is let go.** -/
structure Dismantled (n : Namespace) (i : Integration) (result : Except Failure Action)
    (rest : Transcript Bridge) : Prop where
  /-- Nothing is written but that its organization is deleted and its finalizer is released. -/
  writes : ∀ e ∈ rest, Dismantles i.spec n.metadata.displayName e.query
  /-- When the pass succeeds, the organization is gone, and the finalizer was released then. -/
  success : ∀ action, result = .ok action → action = .awaitChange ∧
    Then (Gone i (i.spec.organization n.metadata.displayName))
      ((ClusterCall.releaseFinalizer n.metadata.displayName Marks.finalizer).Given fun _ => True)
      (.listed i :: rest)
  /-- It fails only where there are no credentials, or a call has failed. -/
  excused : ∀ failure, result = .error failure → Excused i.spec rest

/-- No finalizer is put on a namespace that is let go. -/
theorem Dismantled.unheld (gone : Dismantled n i result rest) :
    ∀ e ∈ rest, e.query.holds = false := by
  rintro ⟨question, reply⟩ mem
  cases question with
  | connect | registry | publish => rfl
  | cluster call =>
    -- To put a finalizer on is a write, and none of those by which a namespace is let go.
    cases call with
    | holdFinalizer => exact absurd (gone.writes _ mem rfl) (by simp)
    | _ => rfl

/-- **What is true of a pass over a namespace** once there is one integration: of its result, and of
all that is asked and answered then. -/
structure Gated (turns : Turns) (n : Namespace) (i : Integration) (result : Except Failure Action)
    (rest : Transcript Bridge) : Prop where
  /-- A namespace that is not being deleted and that the policy does not take is left alone. -/
  left : n.metadata.deleting = false → ¬ i.spec.policy.Takes n.metadata.displayName →
    rest = [] ∧ result = .ok .awaitChange
  /-- Where the finalizer is put on a namespace, that is the only write, nobody calls the registry, and
  the namespace is one that the policy takes, is set up, and did not have the finalizer. -/
  heldOnce : (∃ e ∈ rest, e.query.holds = true) →
    (∃ reply event, rest =
      [.cluster (.holdFinalizer n.metadata.displayName Marks.finalizer) reply, .published event]) ∧
    n.metadata.deleting = false ∧ i.spec.policy.Takes n.metadata.displayName ∧
    n.metadata.finalizedBy Marks.finalizer = false ∧ NamespacePhase.isUnready n = false
  /-- The registry is called only for a namespace that has the finalizer. -/
  remote : (∃ e ∈ rest, e.query.isRemote = true) → n.metadata.finalizedBy Marks.finalizer = true
  /-- A namespace that is being deleted and has the finalizer is let go, whatever the policy. -/
  dismantled : n.metadata.deleting = true → n.metadata.finalizedBy Marks.finalizer = true →
    Dismantled n i result rest
  /-- A namespace that is being deleted without the finalizer is left alone. -/
  untouched : n.metadata.deleting = true → n.metadata.finalizedBy Marks.finalizer = false →
    rest = [] ∧ result = .ok .awaitChange
  /-- The pass goes the same way by any other lists that have the same names. -/
  relisted : ∀ allowed denied : List String, (∀ ns, ns ∈ allowed ↔ ns ∈ i.spec.allowed) →
    (∀ ns, ns ∈ denied ↔ ns ∈ i.spec.denied) →
    (passBy (turns.relisted i.spec.allowed i.spec.denied) n).Ends (.script Bridge) [] result
      (.listed { i with spec := { i.spec with allowed, denied } } :: rest)

/-- All that is heard of a step and of its report is of a kind. -/
theorem queries_of_run {step : Step Action} {kind : Question → Prop} (only : step.Only kind)
    (reports : ∀ failure, kind (.publish (Event.ofFailure failure)))
    (run : (Pass.reporting step).Ends (.script Bridge) t result (t ++ rest)) :
    ∀ e ∈ rest, kind e.query := by
  refine Program.Only.heard (Program.Only.bind only fun reported => ?_) run
  cases reported with
  | ok action => trivial
  | error failure => exact ⟨reports failure, fun _ => trivial⟩

/-- A step that does nothing is all that there is of its pass. -/
theorem idle_of_run {action : Action}
    (run : (Pass.reporting (pure action)).Ends (.script Bridge) t result (t ++ rest)) :
    rest = [] ∧ result = .ok action := by
  have ended : (Pass.reporting (pure action)).Always (.script Bridge) (fun (_ : Question) _ => True)
      (fun result last => result = .ok action ∧ last = t) t := ⟨rfl, rfl⟩
  obtain ⟨done, same⟩ := ended.of_ends run
  exact ⟨List.append_right_eq_self.mp same, done⟩

theorem release_reported (terminating : phase n i = .terminating) :
    (Pass.reporting (release (Resource.reference n) i.spec n.metadata.displayName)).Always
      (.script Bridge) (Warranted n)
      (fun result last => ∀ action, result = .ok action → action = .awaitChange ∧
        Then (Gone i (i.spec.organization n.metadata.displayName))
          ((ClusterCall.releaseFinalizer n.metadata.displayName Marks.finalizer).Given
            fun _ => True) last) [.listed i] := by
  have counted : Counted i [.listed i] := ⟨[], _, [], rfl, trivial, [i], rfl, rfl⟩
  refine Pass.always_reporting_script (Step.Always.mono (release_warranted counted terminating)
    (fun _ _ => id) ?_ fun failure _ _ => ⟨.report failure, nofun⟩)
  rintro action last ⟨released, -⟩ _ ⟨⟩
  exact released

theorem release_kept :
    (Pass.reporting (release object spec name)).Always (.script Bridge)
      (fun (_ : Question) _ => True)
      (fun result last => ∀ failure, result = .error failure → Excused spec last) t := by
  refine Pass.always_reporting_script (release_excused.mono (fun _ _ => id) ?_ ?_)
  · exact fun _ _ _ _ => nofun
  · exact fun _ _ excused => ⟨trivial, fun _ _ => excused.grow _⟩

/-- **A namespace that is being deleted and has the finalizer is let go.** -/
theorem dismantled_of_run (terminating : phase n i = .terminating)
    (run : (Pass.reporting (release (Resource.reference n) i.spec n.metadata.displayName)).Ends
      (.script Bridge) [.listed i] result ([.listed i] ++ rest)) : Dismantled n i result rest := by
  obtain ⟨_, same, carried⟩ := run.carried
  obtain rfl := List.append_cancel_left same
  exact
    { writes := queries_of_run release_dismantles (fun _ => nofun) run
      success := (release_reported terminating).of_ends run
      excused := release_kept.of_ends (carried []) }

/-- **The pass goes the same way by any other lists** that have the same names. -/
theorem relisted_of_run
    (run : (passBy turns n).Ends (.script Bridge) [] result (.listed i :: rest))
    (allowed denied : List String) (sameAllowed : ∀ ns, ns ∈ allowed ↔ ns ∈ i.spec.allowed)
    (sameDenied : ∀ ns, ns ∈ denied ↔ ns ∈ i.spec.denied) :
    (passBy (turns.relisted i.spec.allowed i.spec.denied) n).Ends (.script Bridge) [] result
      (.listed { i with spec := { i.spec with allowed, denied } } :: rest) := by
  have samePhase : phase n { i with spec := { i.spec with allowed, denied } } = phase n i :=
    congrArg (NamespacePhase.of n) (NamespacePolicy.allows_congr sameAllowed sameDenied)
  refine passBy_iff.mpr ?_
  rw [samePhase, inPhaseBy_relisted]
  obtain ⟨_, same, carried⟩ := (passBy_iff.mp run).carried
  obtain rfl := List.append_cancel_left same
  exact carried _

/-- **What is true of a pass over a namespace**, in whatever way service accounts take turns and
whatever it is told once it has been told that there is one integration. -/
theorem passBy_gated
    (run : (passBy turns n).Ends (.script Bridge) [] result (.listed i :: rest)) :
    Gated turns n i result rest := by
  have relisted := relisted_of_run run
  have run := passBy_iff.mp run
  have is := NamespacePhase.is_of n (i.spec.allows n.metadata.displayName)
  have takes : i.spec.allows n.metadata.displayName = true →
      i.spec.policy.Takes n.metadata.displayName := NamespacePolicy.allows_iff.mp
  -- The phase says what the pass does now, and what is true of the namespace.
  rw [show NamespacePhase.of n _ = phase n i from rfl] at is
  cases come : phase n i with
  | unmanaged | initializing | gone =>
    rw [come] at run is
    obtain ⟨rfl, rfl⟩ := idle_of_run run
    refine ⟨fun _ _ => ⟨rfl, rfl⟩, by simp, by simp, ?_, fun _ _ => ⟨rfl, rfl⟩, relisted⟩
    exact fun deleting held => absurd (is.eq_terminating deleting held) nofun
  | pending =>
    rw [come] at run is
    cases is with | pending living taken free ready =>
    obtain ⟨reply, event, same⟩ := takeIn_script.of_ends run
    obtain rfl := List.append_cancel_left same
    have stays : n.metadata.deleting ≠ true := Bool.eq_false_iff.mp living
    exact
      { left := fun _ other => absurd (takes taken) other
        heldOnce := fun _ => ⟨⟨reply, event, rfl⟩, living, takes taken, free, ready⟩
        remote := by simp [Question.isRemote]
        dismantled := fun deleting => absurd deleting stays
        untouched := fun deleting => absurd deleting stays
        relisted }
  | managed =>
    rw [come] at run is
    cases is with | managed living taken held =>
    have unheld := queries_of_run provisionBy_never_holds (fun _ => rfl) run
    have stays : n.metadata.deleting ≠ true := Bool.eq_false_iff.mp living
    exact
      { left := fun _ other => absurd (takes taken) other
        heldOnce := fun ⟨e, mem, holds⟩ => absurd (holds.symm.trans (unheld e mem)) nofun
        remote := fun _ => held
        dismantled := fun deleting => absurd deleting stays
        untouched := fun deleting => absurd deleting stays
        relisted }
  | terminating =>
    rw [come] at run is
    cases is with | terminating deleting held =>
    have gone := dismantled_of_run come run
    exact
      { left := fun living => absurd (deleting.symm.trans living) nofun
        heldOnce := fun ⟨e, mem, holds⟩ => absurd (holds.symm.trans (gone.unheld e mem)) nofun
        remote := fun _ => held
        dismantled := fun _ _ => gone
        untouched := fun _ free => absurd (held.symm.trans free) nofun
        relisted }

/-! ## A namespace that is taken in -/

/-- A namespace without a finalizer. -/
def stall : Namespace :=
  { metadata := { name := some "stall" } }

/-- The finalizer is put on it, and that is told. -/
def stallTaken : Transcript Bridge :=
  [.cluster (.holdFinalizer "stall" Marks.finalizer) (.ok ()),
    .published (Transition.namespaceManaged.event (Resource.reference stall)
      "Namespace bridged to organization acme_stall")]

theorem stall_gated :
    (passBy .inOrder stall).Ends (.script Bridge) [] (.ok .awaitChange)
        (.listed acme :: stallTaken) ∧
      Gated .inOrder stall acme (.ok .awaitChange) stallTaken := by
  have pending : phase stall acme = .pending := by decide
  have run : (passBy .inOrder stall).Ends (.script Bridge) [] (.ok .awaitChange)
      (.listed acme :: stallTaken) := by
    refine passBy_iff.mpr ?_
    rw [pending]
    exact .answered (Except.ok () : Except OperationError Unit) (.answered () (.done _ _))
  exact ⟨run, passBy_gated run⟩

end NamespacePass

end RegistryBridge
