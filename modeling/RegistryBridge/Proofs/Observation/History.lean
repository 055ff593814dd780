import Mathlib.Data.List.Induction
import RegistryBridge.Pass.IntegrationPass
import RegistryBridge.Proofs.Cluster.IntegrationDocument
import RegistryBridge.Proofs.Pass.Script
/-!
# What a bridge remembers of the integrations it has seen

A bridge goes over integrations as long as it runs: over any of them, in any order, with any specs,
and its reports of their status may be refused. What it remembers is told by this history alone: of
every name the spec that was reported last, unless a pass has found the integration being deleted
since.

## Main definitions

* `Sighting`: a pass that took place; `Sighting.Sees`: where it may take place.
* `Sighting.Story`: the ways in which a pass over an integration goes.
* `Watch`: the histories of a bridge, each with what is remembered then.
* `LastReport`: the last report of a name.

## Main results

* `Sighting.sees_iff`: a pass goes in one of these ways, and each of them is one to go.
* `Watch.get?_eq_some_iff`: what is remembered is what was reported last.
* `Watch.alone`: the history of one name is a history of its own.
* `Watch.detects`: a pass reports what the last report did not say.
-/

namespace RegistryBridge

/-- **A pass over an integration that took place**, with all that was asked and answered. -/
structure Sighting where
  integration : Integration
  now : Instant
  result : Except Failure Action
  transcript : Transcript Bridge

namespace Sighting

/-- The name that the integration is remembered by. -/
def name (s : Sighting) : String :=
  s.integration.metadata.displayName

/-- The spec that was seen. -/
def spec (s : Sighting) : IntegrationSpec :=
  s.integration.spec

/-- Whether the integration was being deleted. -/
def deleting (s : Sighting) : Bool :=
  s.integration.metadata.deleting

/-- The call that reports at `now` that an integration has been seen. -/
def report (now : Instant) (i : Integration) : ClusterCall :=
  .reportStatus i.metadata.displayName (.observed now)

/-- **The pass has asked for a status to be written**, of whatever integration. -/
def Patches (s : Sighting) : Prop :=
  ∃ name status reply, .cluster (.reportStatus name status) reply ∈ s.transcript

/-- **The report that the integration has been seen was accepted.** -/
def Reported (s : Sighting) : Prop :=
  .cluster (report s.now s.integration) (.ok ()) ∈ s.transcript

/-- The pass has asked for a status to be written, and that was refused. -/
def Refused (s : Sighting) : Prop :=
  ∃ name status e, .cluster (.reportStatus name status) (.error e) ∈ s.transcript

/-- **A pass may take place** where something is remembered, and leave something remembered. -/
def Sees (seen : LastSeen) (s : Sighting) (after : LastSeen) : Prop :=
  (IntegrationPass.pass s.now seen s.integration).Ends (.script Bridge) [] (s.result, after)
    s.transcript

/-! ## The ways in which a pass goes -/

variable {s : Sighting} {seen after : LastSeen}

/-- **The ways in which a pass over an integration goes**, each with what is remembered then. -/
inductive Story (seen : LastSeen) : Sighting → LastSeen → Prop
  /-- The integration is being deleted. -/
  | deleted {i : Integration} {now : Instant} (gone : i.metadata.deleting = true) :
    Story seen ⟨i, now, .ok .awaitChange, []⟩ (seen.forget i.metadata.displayName)
  /-- Its spec is the one that was seen last. -/
  | current {i : Integration} {now : Instant} (living : i.metadata.deleting = false)
    (known : seen.isCurrent i.metadata.displayName i.spec.fingerprint = true) :
    Story seen ⟨i, now, .ok .awaitChange, []⟩ seen
  /-- Its spec is another one, and that is reported. -/
  | reported {i : Integration} {now : Instant} (living : i.metadata.deleting = false)
    (new : seen.isCurrent i.metadata.displayName i.spec.fingerprint = false) :
    Story seen ⟨i, now, .ok .awaitChange, [.cluster (report now i) (.ok ())]⟩
      (seen.record i.metadata.displayName i.spec.fingerprint)
  /-- Its spec is another one, but the report is refused. -/
  | refused {i : Integration} {now : Instant} (living : i.metadata.deleting = false)
    (new : seen.isCurrent i.metadata.displayName i.spec.fingerprint = false)
    (e : OperationError) :
    Story seen ⟨i, now, .error (IntegrationPass.statusFailure i e),
      [.cluster (report now i) (.error e),
        .published (Event.ofFailure (IntegrationPass.statusFailure i e))]⟩ seen

/-- **A pass goes in one of these ways**, whatever it is answered. -/
theorem pass_story (now : Instant) (seen : LastSeen) (i : Integration) :
    (IntegrationPass.pass now seen i).Always (.script Bridge) (fun _ _ => True)
      (fun out t => Story seen ⟨i, now, out.1, t⟩ out.2) [] := by
  unfold IntegrationPass.pass
  dsimp only
  cases deleting : i.metadata.deleting with
  | true => exact .deleted deleting
  | false =>
    cases known : seen.isCurrent i.metadata.displayName i.spec.fingerprint with
    | true => exact .current deleting known
    | false =>
      refine ⟨trivial, ?_⟩
      rintro (e | ⟨⟩) _ rfl
      · refine ⟨trivial, ?_⟩
        rintro ⟨⟩ _ rfl
        exact .refused deleting known e
      · exact .reported deleting known

/-- **Each of these ways is one to go.** -/
theorem Story.sees (story : Story seen s after) : s.Sees seen after := by
  unfold Sees IntegrationPass.pass
  cases story with
  | deleted gone =>
    rw [if_pos gone]
    exact .done _ _
  | current living known =>
    rw [if_neg (by simp [living]), if_pos known]
    exact .done _ _
  | reported living new =>
    rw [if_neg (by simp [living]), if_neg (by simp [new])]
    exact .answered (Except.ok () : Except OperationError Unit) (.done _ _)
  | refused living new e =>
    rw [if_neg (by simp [living]), if_neg (by simp [new])]
    exact .answered (Except.error e : Except OperationError Unit) (.answered () (.done _ _))

theorem sees_iff : s.Sees seen after ↔ Story seen s after :=
  ⟨(pass_story s.now seen s.integration).of_ends, Story.sees⟩

/-! ## What a story says -/

namespace Story

/-- What is remembered of another name stays. -/
theorem get?_of_ne {name : String} (story : Story seen s after) (other : name ≠ s.name) :
    after.get? name = seen.get? name := by
  cases story with
  | deleted => exact (Table.get?_erase _ _ _).trans (if_neg other)
  | reported => exact Table.get?_insert_of_ne _ _ other
  | current | refused => rfl

/-- **What is remembered of the name that a pass is over.** -/
theorem get?_self (story : Story seen s after) :
    s.deleting = true ∧ ¬ s.Reported ∧ after.get? s.name = none ∨
      s.deleting = false ∧ s.Reported ∧ after.get? s.name = some s.spec.fingerprint ∨
      s.deleting = false ∧ ¬ s.Reported ∧ after = seen := by
  cases story with
  | deleted gone =>
    refine .inl ⟨gone, List.not_mem_nil, ?_⟩
    exact (Table.get?_erase _ _ _).trans (if_pos rfl)
  | current living => exact .inr (.inr ⟨living, List.not_mem_nil, rfl⟩)
  | reported living => exact .inr (.inl ⟨living, .head _, Table.get?_insert_self _ _ _⟩)
  | refused living _ e =>
    refine .inr (.inr ⟨living, fun accepted => ?_, rfl⟩)
    rcases accepted with _ | ⟨_, _ | ⟨_, ⟨⟩⟩⟩

/-- A pass goes by what is remembered of its own name alone. -/
theorem congr {own : LastSeen} (story : Story seen s after)
    (same : own.get? s.name = seen.get? s.name) :
    ∃ ownAfter, Story own s ownAfter ∧ ownAfter.get? s.name = after.get? s.name := by
  have current : own.isCurrent s.name = seen.isCurrent s.name := by
    unfold LastSeen.isCurrent
    rw [same]
  cases story with
  | @deleted i _ gone =>
    refine ⟨own.forget i.metadata.displayName, .deleted gone, ?_⟩
    exact ((Table.get?_erase own _ _).trans (if_pos rfl)).trans
      ((Table.get?_erase seen _ _).trans (if_pos rfl)).symm
  | current living known => exact ⟨own, .current living (current ▸ known), same⟩
  | @reported i _ living new =>
    refine ⟨own.record i.metadata.displayName i.spec.fingerprint,
      .reported living (current ▸ new), ?_⟩
    exact (Table.get?_insert_self own _ _).trans (Table.get?_insert_self seen _ _).symm
  | refused living new e => exact ⟨own, .refused living (current ▸ new) e, same⟩

/-- A pass asks for a status to be written just when its spec is not the one remembered. -/
theorem patches_iff (story : Story seen s after) :
    s.Patches ↔ s.deleting = false ∧ seen.isCurrent s.name s.spec.fingerprint = false := by
  cases story with
  | deleted gone => simp [Patches, Sighting.deleting, gone]
  | current _ known => simp [Patches, name, spec, known]
  | reported living new => exact iff_of_true ⟨_, _, _, .head _⟩ ⟨living, new⟩
  | refused living new e => exact iff_of_true ⟨_, _, _, .head _⟩ ⟨living, new⟩

/-- A pass over an integration that is being deleted asks for nothing. -/
theorem of_deleting (story : Story seen s after) (gone : s.deleting = true) :
    s.transcript = [] ∧ after.get? s.name = none := by
  cases story with
  | deleted => exact ⟨rfl, (Table.get?_erase _ _ _).trans (if_pos rfl)⟩
  | current living | reported living | refused living =>
    exact absurd (gone.symm.trans living) nofun

/-- Where a report is refused, the integration is there, and what is remembered stays. -/
theorem of_refused (story : Story seen s after) (refused : s.Refused) :
    s.deleting = false ∧ seen.isCurrent s.name s.spec.fingerprint = false ∧ ¬ s.Reported ∧
      after = seen := by
  obtain ⟨named, status, e, mem⟩ := refused
  cases story with
  | deleted | current => exact absurd mem List.not_mem_nil
  | reported => obtain _ | ⟨_, ⟨⟩⟩ := mem
  | refused living new e =>
    refine ⟨living, new, fun accepted => ?_, rfl⟩
    rcases accepted with _ | ⟨_, _ | ⟨_, ⟨⟩⟩⟩

/-- All that is asked of the cluster is the report of the pass's own integration. -/
theorem own {call : ClusterCall} {reply : Except OperationError call.Value}
    (story : Story seen s after) (mem : .cluster call reply ∈ s.transcript) :
    call = report s.now s.integration := by
  cases story with
  | deleted | current => exact absurd mem List.not_mem_nil
  | reported =>
    obtain _ | ⟨_, ⟨⟩⟩ := mem
    rfl
  | refused =>
    obtain _ | ⟨_, _ | ⟨_, ⟨⟩⟩⟩ := mem
    rfl

end Story

end Sighting

/-! ## Histories -/

/-- **The histories of a bridge**, each with what is remembered then. At first that is nothing. -/
inductive Watch : List Sighting → LastSeen → Prop
  | start : Watch [] []
  | pass {history : List Sighting} {seen after : LastSeen} {s : Sighting}
    (watch : Watch history seen) (sees : s.Sees seen after) : Watch (history ++ [s]) after

/-- A pass supersedes what was reported of a name before: it finds the integration being deleted, or
it reports anew. -/
def Sighting.Supersedes (s : Sighting) (name : String) : Prop :=
  s.name = name ∧ (s.deleting = true ∨ s.Reported)

/-- **The last report of a name**, no pass having found the integration being deleted since. -/
def LastReport (history : List Sighting) (name : String) (report : Sighting) : Prop :=
  ∃ front back, history = front ++ report :: back ∧ report.name = name ∧ report.Reported ∧
    ∀ later ∈ back, ¬ later.Supersedes name

variable {history : List Sighting} {seen after : LastSeen} {s r : Sighting} {name : String}

namespace LastReport

theorem mem (h : LastReport history name r) : r ∈ history := by
  obtain ⟨front, back, rfl, -⟩ := h
  simp

theorem reported (h : LastReport history name r) : r.Reported := by
  obtain ⟨front, back, -, -, reported, -⟩ := h
  exact reported

theorem not_nil : ¬ LastReport [] name r :=
  fun h => absurd h.mem List.not_mem_nil

/-- The last report once there is one pass more. -/
theorem snoc_iff : LastReport (history ++ [s]) name r ↔
    r = s ∧ s.name = name ∧ s.Reported ∨ ¬ s.Supersedes name ∧ LastReport history name r := by
  constructor
  · rintro ⟨front, back, split, named, reported, quiet⟩
    rcases snoc_eq_append_cons_iff.mp split with ⟨-, -, rfl⟩ | ⟨between, rfl, rfl⟩
    · exact .inl ⟨rfl, named, reported⟩
    · refine .inr ⟨quiet s (by simp), front, between, rfl, named, reported, ?_⟩
      exact fun later mem => quiet later (by simp [mem])
  · rintro (⟨rfl, named, reported⟩ | ⟨still, front, back, rfl, named, reported, quiet⟩)
    · exact ⟨history, [], rfl, named, reported, by simp⟩
    · refine ⟨front, back ++ [s], by simp, named, reported, ?_⟩
      intro later mem
      rcases List.mem_append.mp mem with mem | mem
      · exact quiet later mem
      · obtain rfl := List.mem_singleton.mp mem
        exact still

/-- Passes over other names change nothing of what was reported last. -/
theorem append_iff {between : List Sighting} (others : ∀ s ∈ between, s.name ≠ name) :
    LastReport (history ++ between) name r ↔ LastReport history name r := by
  induction between using List.reverseRecOn with
  | nil => rw [List.append_nil]
  | append_singleton between s ih =>
    have other : s.name ≠ name := others s (by simp)
    rw [← List.append_assoc, snoc_iff, ih fun s mem => others s (by simp [mem])]
    constructor
    · rintro (⟨-, named, -⟩ | ⟨-, h⟩)
      · exact absurd named other
      · exact h
    · exact fun h => .inr ⟨fun ended => other ended.1, h⟩

end LastReport

namespace Watch

/-- **What is remembered is what was reported last.** -/
theorem get?_eq_some_iff (watch : Watch history seen) (name fingerprint : String) :
    seen.get? name = some fingerprint ↔
      ∃ r, LastReport history name r ∧ r.spec.fingerprint = fingerprint := by
  induction watch with
  | start => exact ⟨nofun, fun ⟨_, report, _⟩ => absurd report LastReport.not_nil⟩
  | @pass _ _ _ s _ sees ih =>
    have story := Sighting.sees_iff.mp sees
    simp only [LastReport.snoc_iff]
    -- A pass over this name forgets it, remembers it anew or leaves it; one over another leaves it.
    by_cases named : s.name = name
    · subst named
      rcases story.get?_self with ⟨deleting, silent, gone⟩ | ⟨-, reported, known⟩ |
        ⟨living, silent, rfl⟩
      · simp [gone, silent, Sighting.Supersedes, deleting]
      · simp [known, reported, Sighting.Supersedes]
      · simp [silent, Sighting.Supersedes, living, ih]
    · rw [story.get?_of_ne (Ne.symm named), ih]
      simp [named, Sighting.Supersedes]

/-- A spec is the one remembered just when the last report was of it. -/
theorem isCurrent_iff (watch : Watch history seen) (name : String) (spec : IntegrationSpec) :
    seen.isCurrent name spec.fingerprint = true ↔
      ∃ r, LastReport history name r ∧ r.spec = spec := by
  rw [LastSeen.isCurrent, beq_iff_eq, watch.get?_eq_some_iff]
  simp only [IntegrationSpec.fingerprint_inj]

/-- **The history of one name is a history of its own**: the passes over it go as they would have
gone if there had been no others. -/
theorem alone (watch : Watch history seen) (name : String) :
    ∃ own, Watch (history.filter (·.name = name)) own ∧ own.get? name = seen.get? name := by
  induction watch with
  | start => exact ⟨[], .start, rfl⟩
  | @pass _ _ _ s _ sees ih =>
    have story := Sighting.sees_iff.mp sees
    obtain ⟨own, course, same⟩ := ih
    rw [List.filter_append]
    -- The two tables agree on this name, and a pass over it goes by nothing else.
    by_cases named : s.name = name
    · subst named
      obtain ⟨ownAfter, likewise, agree⟩ := story.congr same
      have one : [s].filter (·.name = s.name) = [s] := by simp
      rw [one]
      exact ⟨ownAfter, course.pass likewise.sees, agree⟩
    · have none : [s].filter (·.name = name) = [] := by simp [named]
      rw [none, List.append_nil]
      exact ⟨own, course, same.trans (story.get?_of_ne (Ne.symm named)).symm⟩

/-- **What was refused is tried again** by the next pass over that name and spec. -/
theorem again_of_refused (watch : Watch history seen) (sees : s.Sees seen after)
    (refused : s.Refused) {between : List Sighting} {next : Sighting} {seen' after' : LastSeen}
    (later : Watch (history ++ [s] ++ between) seen')
    (others : ∀ other ∈ between, other.name ≠ s.name)
    (sees' : next.Sees seen' after') (named : next.name = s.name) (same : next.spec = s.spec)
    (living : next.deleting = false) : next.Patches := by
  obtain ⟨-, new, silent, -⟩ := (Sighting.sees_iff.mp sees).of_refused refused
  -- The spec had not been reported before, and neither this pass nor one between has reported it.
  have unreported : ¬ ∃ r, LastReport history s.name r ∧ r.spec = s.spec := by
    rw [← watch.isCurrent_iff, new]
    exact Bool.false_ne_true
  refine (Sighting.sees_iff.mp sees').patches_iff.mpr ⟨living, Bool.eq_false_iff.mpr ?_⟩
  intro known
  obtain ⟨r, report, equal⟩ := (later.isCurrent_iff _ _).mp known
  rw [named, LastReport.append_iff others, LastReport.snoc_iff] at report
  rcases report with ⟨-, -, reported⟩ | ⟨-, report⟩
  · exact silent reported
  · exact unreported ⟨r, report, equal.trans same⟩

end Watch

/-! ## One pass more -/

/-- **What is true of a pass over an integration** that takes place after some history. -/
structure Sighting.Detects (history : List Sighting) (seen : LastSeen) (s : Sighting)
    (after : LastSeen) : Prop where
  /-- It asks for a status to be written just when the integration is not being deleted and its spec
  is not the one that was reported last. -/
  patches_iff : s.Patches ↔
    s.deleting = false ∧ ¬ ∃ r, LastReport history s.name r ∧ r.spec = s.spec
  /-- Nothing else is written, and no other status. -/
  own : ∀ call reply, .cluster call reply ∈ s.transcript →
    call = Sighting.report s.now s.integration
  /-- What is remembered is what was reported last, before the pass and after it. -/
  remembered : ∀ name fingerprint, (seen.get? name = some fingerprint ↔
      ∃ r, LastReport history name r ∧ r.spec.fingerprint = fingerprint) ∧
    (after.get? name = some fingerprint ↔
      ∃ r, LastReport (history ++ [s]) name r ∧ r.spec.fingerprint = fingerprint)
  /-- Where the report is refused, what is remembered stays. -/
  refused : s.Refused → after = seen
  /-- The next pass over that name and spec writes again, whatever other integrations are seen in
  between. -/
  again : s.Refused → ∀ ⦃between : List Sighting⦄ ⦃next : Sighting⦄ ⦃seen' after' : LastSeen⦄,
    Watch (history ++ [s] ++ between) seen' → (∀ other ∈ between, other.name ≠ s.name) →
    next.Sees seen' after' → next.name = s.name → next.spec = s.spec → next.deleting = false →
    next.Patches
  /-- A pass over an integration that is being deleted asks for nothing, and forgets its name. -/
  deleted : s.deleting = true → s.transcript = [] ∧ after.get? s.name = none
  /-- Nothing else is forgotten or remembered of any other name. -/
  others : ∀ name, name ≠ s.name → after.get? name = seen.get? name
  /-- The pass goes as it would if there had been no passes over other names. -/
  alone : ∃ own ownAfter, Watch (history.filter (·.name = s.name)) own ∧ s.Sees own ownAfter ∧
    ownAfter.get? s.name = after.get? s.name

/-- **A pass reports what the last report did not say.** -/
theorem Watch.detects (watch : Watch history seen) (sees : s.Sees seen after) :
    s.Detects history seen after := by
  have story := Sighting.sees_iff.mp sees
  exact
    { patches_iff := by rw [story.patches_iff, ← watch.isCurrent_iff, Bool.not_eq_true]
      own := fun _ _ => story.own
      remembered := fun name fingerprint =>
        ⟨watch.get?_eq_some_iff name fingerprint,
          (watch.pass sees).get?_eq_some_iff name fingerprint⟩
      refused := fun refused => (story.of_refused refused).2.2.2
      again := fun refused _ _ _ _ => watch.again_of_refused sees refused
      deleted := story.of_deleting
      others := fun _ => story.get?_of_ne
      alone := by
        obtain ⟨own, course, same⟩ := watch.alone s.name
        obtain ⟨ownAfter, likewise, agree⟩ := story.congr same
        exact ⟨own, ownAfter, course, likewise.sees, agree⟩ }

namespace Sighting

/-! ## A report that is refused -/

/-- An integration that a bridge sees. -/
def watched : Integration :=
  { metadata := { name := some "bridge", uid := some "uid-1" }
    spec := { clusterId := "acme", hostname := "quay.example.com" } }

/-- The integration once imports are to be kept up to date. -/
def watchedLater : Integration :=
  { watched with spec := { watched.spec with scheduledImport := true } }

/-- A pass whose report is accepted. -/
def accepted (i : Integration) : Sighting :=
  ⟨i, default, .ok .awaitChange, [.cluster (report default i) (.ok ())]⟩

/-- A pass whose report is refused. -/
def refused (i : Integration) (e : OperationError) : Sighting :=
  ⟨i, default, .error (IntegrationPass.statusFailure i e),
    [.cluster (report default i) (.error e),
      .published (Event.ofFailure (IntegrationPass.statusFailure i e))]⟩

/-- What is remembered once an integration has been reported. -/
def remembered (i : Integration) : LastSeen :=
  LastSeen.record [] i.metadata.displayName i.spec.fingerprint

theorem sees_accepted : (accepted watched).Sees [] (remembered watched) :=
  (Story.reported rfl rfl).sees

theorem isCurrent_remembered_later : (remembered watched).isCurrent "bridge"
    watchedLater.spec.fingerprint = false := by
  have known : (remembered watched).get? "bridge" = some watched.spec.fingerprint :=
    Table.get?_insert_self _ _ _
  rw [LastSeen.isCurrent, known, beq_eq_false_iff_ne]
  intro same
  have specs := IntegrationSpec.fingerprint_inj.mp (Option.some.inj same)
  exact absurd specs (by decide)

/-- An edit whose report is refused is to be reported by the next pass. -/
theorem watched_later_detected :
    (refused watchedLater .undecodable).Detects [accepted watched] (remembered watched)
      (remembered watched) ∧ (refused watchedLater .undecodable).Patches := by
  have sees : (refused watchedLater .undecodable).Sees (remembered watched) (remembered watched) :=
    (Story.refused rfl isCurrent_remembered_later .undecodable).sees
  have watch : Watch [accepted watched] (remembered watched) := .pass .start sees_accepted
  exact ⟨watch.detects sees, _, _, _, .head _⟩

end Sighting

end RegistryBridge
