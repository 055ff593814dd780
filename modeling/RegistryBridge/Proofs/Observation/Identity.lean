import Mathlib.Logic.Function.Basic
import Mathlib.Logic.Relation
import RegistryBridge.Proofs.Observation.History
/-!
# Integrations that are made anew

What a bridge remembers goes by name, and a name outlives its object: an integration that nothing
holds disappears unseen, and another one may be made under its name. A cluster gives every object a
uid of its own, which tells them apart.

## Main definitions

* `Scene`: the integrations of a cluster, and the bridge that goes over them.
* `Scene.Step`: one thing that happens; `Scene.Reached`: where any number of them lead.
* `Sighting.Told`: the status of an object has been written for its spec.

## Main results

* `Scene.Reached.orderly`: an object that another one has followed is not there any more.
* `Scene.told_iff`: after a pass an integration has its status, unless the last report of its name
  was of the same spec, but of another object.
* `Scene.reborn_untold`: an integration that is left without its status.
-/

namespace RegistryBridge

/-- **The condition that an integration's spec has been seen.** -/
def IntegrationStatus.Synced (status : IntegrationStatus) : Prop :=
  ∃ c ∈ status.conditions, c.kind = "Synced" ∧ c.status = .holds

/-- The status that an exchange has written. -/
def Exchange.written (e : Exchange Bridge) : Option IntegrationStatus :=
  match e with
  | ⟨.cluster (.reportStatus _ status), reply⟩ =>
    match (reply : Except OperationError Unit) with
    | .ok () => some status
    | .error _ => none
  | _ => none

namespace Sighting

variable {s : Sighting} {seen after : LastSeen}

/-- What the cluster told the object of a pass by. -/
def uid (s : Sighting) : Option String :=
  s.integration.metadata.uid

/-- The integration as the pass leaves it. -/
def left (s : Sighting) : Integration :=
  { s.integration with
    status := (s.transcript.filterMap Exchange.written).getLast?.or s.integration.status }

/-- **A status that says that the spec has been seen was accepted** for the pass's object. -/
def Accepted (s : Sighting) : Prop :=
  ∃ status, .cluster (.reportStatus s.name status) (.ok ()) ∈ s.transcript ∧ status.Synced

/-- **The status of an object has been written for its spec** by one of some passes. -/
def Told (s : Sighting) (history : List Sighting) : Prop :=
  ∃ r ∈ history, r.uid = s.uid ∧ r.spec = s.spec ∧ r.Accepted

theorem Reported.accepted (reported : s.Reported) : s.Accepted :=
  ⟨_, reported, _, .head _, rfl, rfl⟩

theorem Story.reported_of_accepted (story : Story seen s after) (accepted : s.Accepted) :
    s.Reported := by
  obtain ⟨status, mem, -⟩ := accepted
  have own := story.own mem
  rw [report, ClusterCall.reportStatus.injEq] at own
  obtain ⟨-, rfl⟩ := own
  exact mem

end Sighting

/-- Every pass of a history has gone in one of the ways. -/
theorem Watch.story_of_mem {history : List Sighting} {seen : LastSeen} {r : Sighting}
    (watch : Watch history seen) (mem : r ∈ history) :
    ∃ before after, Sighting.Story before r after := by
  induction watch with
  | start => exact absurd mem List.not_mem_nil
  | pass _ sees ih =>
    rcases List.mem_append.mp mem with mem | mem
    · exact ih mem
    · obtain rfl := List.mem_singleton.mp mem
      exact ⟨_, _, Sighting.sees_iff.mp sees⟩

/-- **The integrations of a cluster**, by name, and the bridge that goes over them. -/
structure Scene where
  stored : Table Integration := []
  /-- The name that a uid was given for. -/
  owner : String → Option String := fun _ => none
  seen : LastSeen := []
  history : List Sighting := []

namespace Scene

variable {c c' : Scene} {s : Sighting} {after : LastSeen}

/-- An integration is stored as it is. -/
def Holds (c : Scene) (i : Integration) : Prop :=
  c.stored.get? i.metadata.displayName = some i

/-- The scene with an integration stored in the place of its name. -/
def store (c : Scene) (i : Integration) : Scene :=
  { c with stored := c.stored.insert i.metadata.displayName i }

/-- The integration once its deletion has been asked for. -/
def doom (i : Integration) (now : Instant) : Integration :=
  { i with metadata := { i.metadata with deletionTimestamp := some now } }

/-- **One thing that happens** to the integrations of a cluster. -/
inductive Step : Scene → Scene → Prop
  /-- An integration is made, with a uid that no other one has had, and without a status. -/
  | made {c : Scene} {i : Integration} {u : String}
    (vacant : c.stored.get? i.metadata.displayName = none) (own : i.metadata.uid = some u)
    (fresh : c.owner u = none) (living : i.metadata.deleting = false) (blank : i.status = none) :
    Step c { c.store i with owner := Function.update c.owner u (some i.metadata.displayName) }
  /-- An integration is edited; it stays the same object. -/
  | edited {c : Scene} {i i' : Integration} (there : c.Holds i)
    (name : i'.metadata.displayName = i.metadata.displayName)
    (own : i'.metadata.uid = i.metadata.uid)
    (deletion : i'.metadata.deletionTimestamp = i.metadata.deletionTimestamp) :
    Step c (c.store i')
  /-- An integration that something holds is to be deleted. -/
  | doomed {c : Scene} {i : Integration} (there : c.Holds i)
    (held : i.metadata.finalizerList ≠ []) (now : Instant) :
    Step c (c.store (doom i now))
  /-- An integration that nothing holds disappears. -/
  | gone {c : Scene} {i : Integration} (there : c.Holds i) (free : i.metadata.finalizerList = []) :
    Step c { c with stored := c.stored.erase i.metadata.displayName }
  /-- The bridge goes over an integration. -/
  | passed {c : Scene} {s : Sighting} {after : LastSeen} (there : c.Holds s.integration)
    (sees : s.Sees c.seen after) :
    Step c { c.store s.left with seen := after, history := c.history ++ [s] }

/-- **A scene that is reached** from a cluster without integrations, where the bridge has seen
nothing yet. -/
def Reached (c : Scene) : Prop :=
  Relation.ReflTransGen Step {} c

/-! ## What a step does -/

/-- A uid was given for a name. -/
def Owns (c : Scene) (name : String) (uid : Option String) : Prop :=
  ∃ u, uid = some u ∧ c.owner u = some name

/-- **An integration comes from before**, or it has a uid that had not been given. -/
def Comes (c c' : Scene) (name : String) (i : Integration) : Prop :=
  (∃ j, c.stored.get? name = some j ∧ j.metadata.uid = i.metadata.uid) ∨
    ∃ u, i.metadata.uid = some u ∧ c.owner u = none ∧ c'.owner u = some name

theorem comes_store {i j : Integration} {name : String} (there : c.Holds i)
    (named : j.metadata.displayName = i.metadata.displayName)
    (own : j.metadata.uid = i.metadata.uid) {k : Integration}
    (mem : (c.store j).stored.get? name = some k) : Comes c c' name k := by
  rw [store, Table.get?_insert] at mem
  split at mem
  · obtain rfl := Option.some.inj mem
    subst name
    exact .inl ⟨i, named ▸ there, own.symm⟩
  · exact .inl ⟨k, mem, rfl⟩

/-- **Whatever is stored after a step** was there before as the same object, or is a new one. -/
theorem Step.comes (step : Step c c') {name : String} {i : Integration}
    (mem : c'.stored.get? name = some i) : Comes c c' name i := by
  cases step with
  | @made i' u vacant own fresh =>
    rw [store, Table.get?_insert] at mem
    split at mem
    · obtain rfl := Option.some.inj mem
      subst name
      exact .inr ⟨u, own, fresh, Function.update_self _ _ _⟩
    · exact .inl ⟨i, mem, rfl⟩
  | edited there named own => exact comes_store there named own mem
  | @doomed i there _ now => exact comes_store (j := doom i now) there rfl rfl mem
  | gone =>
    rw [Table.get?_erase] at mem
    split at mem
    · cases mem
    · exact .inl ⟨i, mem, rfl⟩
  | @passed s after there sees => exact comes_store (j := s.left) there rfl rfl mem

/-- A uid is given once. -/
theorem Step.owner (step : Step c c') {u name : String} (given : c.owner u = some name) :
    c'.owner u = some name := by
  cases step with
  | @made i v _ _ fresh =>
    have other : u ≠ v := by
      rintro rfl
      exact absurd (given.symm.trans fresh) nofun
    exact (Function.update_of_ne other _ _).trans given
  | edited | doomed | gone | passed => exact given

theorem Owns.step {name : String} {uid : Option String} (owns : c.Owns name uid)
    (step : Step c c') : c'.Owns name uid := by
  obtain ⟨u, rfl, given⟩ := owns
  exact ⟨u, rfl, step.owner given⟩

/-- A step adds a pass over what is stored to the history, or leaves it as it is. -/
theorem Step.history (step : Step c c') :
    c'.history = c.history ∧ c'.seen = c.seen ∨
      ∃ s : Sighting, c.Holds s.integration ∧ s.Sees c.seen c'.seen ∧
        c'.history = c.history ++ [s] := by
  cases step with
  | passed there sees => exact .inr ⟨_, there, sees, rfl⟩
  | made | edited | doomed | gone => exact .inl ⟨rfl, rfl⟩

/-! ## What is true of every scene -/

/-- An object is not stored any more. -/
def Missing (c : Scene) (p : Sighting) : Prop :=
  ∀ i, c.stored.get? p.name = some i → i.metadata.uid ≠ p.uid

/-- **What is true of every scene that is reached.** -/
structure Orderly (c : Scene) : Prop where
  watch : Watch c.history c.seen
  /-- The objects that are stored, and those that have been seen, have uids given for their names. -/
  stored : ∀ name i, c.stored.get? name = some i → c.Owns name i.metadata.uid
  past : ∀ s ∈ c.history, c.Owns s.name s.uid
  /-- An object that has been seen before another one of its name is not stored any more. -/
  followed : c.history.Pairwise fun p r => p.name = r.name → p.uid ≠ r.uid → c.Missing p

namespace Orderly

theorem missing_step (orderly : Orderly c) (step : Step c c') {p : Sighting} (mem : p ∈ c.history)
    (missing : c.Missing p) : c'.Missing p := by
  intro i there
  rcases step.comes there with ⟨j, before, same⟩ | ⟨u, own, fresh, -⟩
  · rw [← same]
    exact missing j before
  · -- The object is new, and its uid had not been given to any other.
    obtain ⟨v, ofPast, given⟩ := orderly.past p mem
    rw [own, ofPast]
    rintro ⟨⟩
    exact absurd (given.symm.trans fresh) nofun

theorem step (orderly : Orderly c) (step : Step c c') : Orderly c' := by
  have kept : ∀ s ∈ c.history, c'.Owns s.name s.uid := fun s mem =>
    (orderly.past s mem).step step
  have still : c.history.Pairwise fun p r => p.name = r.name → p.uid ≠ r.uid → c'.Missing p :=
    orderly.followed.imp_of_mem fun mem _ missing named other =>
      orderly.missing_step step mem (missing named other)
  have stored : ∀ name i, c'.stored.get? name = some i → c'.Owns name i.metadata.uid := by
    intro name i there
    rcases step.comes there with ⟨j, before, same⟩ | ⟨u, own, -, given⟩
    · exact same ▸ (orderly.stored name j before).step step
    · exact ⟨u, own, given⟩
  rcases step.history with ⟨same, seen⟩ | ⟨s, there, sees, longer⟩
  · exact ⟨by rw [same, seen]; exact orderly.watch, stored, by rwa [same], by rwa [same]⟩
  · refine ⟨longer ▸ orderly.watch.pass sees, stored, ?_, ?_⟩
    · rw [longer]
      intro r mem
      rcases List.mem_append.mp mem with mem | mem
      · exact kept r mem
      · obtain rfl := List.mem_singleton.mp mem
        exact (orderly.stored _ _ there).step step
    · rw [longer, List.pairwise_append]
      refine ⟨still, List.pairwise_singleton _ _, fun p mem r last named other => ?_⟩
      obtain rfl := List.mem_singleton.mp last
      refine orderly.missing_step step mem fun i present => ?_
      -- What is stored under the name is the object that the pass was over.
      rw [named] at present
      obtain rfl := Option.some.inj (present.symm.trans there)
      exact other.symm

end Orderly

/-- **Every scene that is reached is orderly.** -/
theorem Reached.orderly (reached : Reached c) : Orderly c := by
  induction reached with
  | refl =>
    exact ⟨.start, fun _ _ there => absurd there.symm (Option.some_ne_none _),
      fun _ mem => absurd mem List.not_mem_nil, .nil⟩
  | tail _ step ih => exact ih.step step

/-! ## After a pass -/

/-- Who an object was is told by its uid. -/
theorem Orderly.name_eq (orderly : Orderly c) (there : c.Holds s.integration) {r : Sighting}
    (mem : r ∈ c.history) (same : r.uid = s.uid) : r.name = s.name := by
  obtain ⟨u, ofPast, given⟩ := orderly.past r mem
  obtain ⟨v, ofStored, now⟩ := orderly.stored _ _ there
  obtain rfl : u = v := Option.some.inj ((ofPast.symm.trans same).trans ofStored)
  exact Option.some.inj (given.symm.trans now)

/-- **The last report of a name is of the object that is there**, if any report of this object was
accepted. -/
theorem Orderly.uid_eq_of_reported (orderly : Orderly c) (there : c.Holds s.integration)
    {l r : Sighting} (last : LastReport c.history s.name l) (mem : r ∈ c.history)
    (own : r.uid = s.uid) (reported : r.Reported) : l.uid = s.uid := by
  have named := orderly.name_eq there mem own
  -- No report comes after the last one, so this report is the last one or comes before it.
  obtain ⟨front, back, split, namedLast, -, quiet⟩ := last
  rw [split] at mem
  rcases List.mem_append.mp mem with earlier | later
  · have apart := orderly.followed
    rw [split, List.pairwise_append] at apart
    by_contra other
    -- Another object has been seen since, so the one of the earlier report would not be there.
    have missing := apart.2.2 r earlier l (.head _) (named.trans namedLast.symm)
      fun equal => other (equal.symm.trans own)
    exact missing s.integration (named.symm ▸ there) own.symm
  · rcases List.mem_cons.mp later with rfl | later
    · exact own
    · exact absurd ⟨named, .inr reported⟩ (quiet r later)

/-- **When an integration has its status.** After a pass that succeeds over an integration that is
not being deleted, a status has been accepted for this object and its spec, unless the last report of
its name was of the same spec, but of another object, whose deletion no pass has seen. -/
theorem told_iff (reached : Reached c) (there : c.Holds s.integration) (sees : s.Sees c.seen after)
    (living : s.deleting = false) {action : Action} (succeeded : s.result = .ok action) :
    s.Told (c.history ++ [s]) ↔
      ∀ r, LastReport c.history s.name r → r.spec = s.spec → r.uid = s.uid := by
  have orderly := reached.orderly
  have story := Sighting.sees_iff.mp sees
  constructor
  · rintro ⟨r, mem, own, same, accepted⟩ l report equal
    -- The spec is remembered, so this pass reports nothing: the accepted report is an earlier one.
    have silent : ¬ s.Accepted := by
      rintro ⟨status, asked, -⟩
      obtain ⟨-, new⟩ := story.patches_iff.mp ⟨_, _, _, asked⟩
      rw [(orderly.watch.isCurrent_iff _ _).mpr ⟨l, report, equal⟩] at new
      cases new
    rcases List.mem_append.mp mem with past | now
    · obtain ⟨before, after, pastStory⟩ := orderly.watch.story_of_mem past
      have reported := pastStory.reported_of_accepted accepted
      exact orderly.uid_eq_of_reported there report past own reported
    · obtain rfl := List.mem_singleton.mp now
      exact absurd accepted silent
  · intro ownReport
    cases story with
    | deleted gone => exact absurd (gone.symm.trans living) nofun
    | refused => cases succeeded
    | reported => exact ⟨_, by simp, rfl, rfl, Sighting.Reported.accepted (.head _)⟩
    | current _ known =>
      obtain ⟨r, report, equal⟩ := (orderly.watch.isCurrent_iff _ _).mp known
      exact ⟨r, List.mem_append_left _ report.mem, ownReport r report equal, equal,
        report.reported.accepted⟩

/-! ## An integration that is made anew -/

open Sighting (watched remembered)

/-- The integration has been made. -/
def begun : Scene :=
  { store {} watched with owner := Function.update (fun _ => none) "uid-1" (some "bridge") }

/-- A pass over it has been successful. -/
def told : Scene :=
  { begun.store (Sighting.accepted watched).left with
    seen := remembered watched, history := [Sighting.accepted watched] }

/-- The integration has disappeared. -/
def bare : Scene :=
  { told with stored := told.stored.erase "bridge" }

/-- The integration that is made in its place. -/
def reborn : Integration :=
  { watched with metadata := { watched.metadata with uid := some "uid-2" } }

/-- Another integration has been made under its name. -/
def anew : Scene :=
  { bare.store reborn with owner := Function.update bare.owner "uid-2" (some "bridge") }

theorem reached_begun : Reached begun :=
  .tail .refl (.made (i := watched) rfl rfl rfl rfl rfl)

theorem reached_anew : Reached anew := by
  have passed : Step begun told :=
    .passed (s := Sighting.accepted watched) rfl Sighting.sees_accepted
  have gone : Step told bare := .gone (i := (Sighting.accepted watched).left) rfl rfl
  have made : Step bare anew := .made (i := reborn) rfl rfl rfl rfl rfl
  exact ((reached_begun.tail passed).tail gone).tail made

theorem watched_told :
    (Sighting.accepted watched).Told (begun.history ++ [Sighting.accepted watched]) := by
  have there : begun.Holds watched := rfl
  refine (told_iff (s := Sighting.accepted watched) reached_begun there Sighting.sees_accepted rfl
    rfl).mpr ?_
  exact fun r report => absurd report LastReport.not_nil

/-- **An integration that is left without its status**: the bridge has reported the spec of the
object that had its name before, which disappeared unseen, and takes it for reported. -/
theorem reborn_untold : ∃ (c : Scene) (s : Sighting), Reached c ∧ c.Holds s.integration ∧
    s.Sees c.seen c.seen ∧ s.deleting = false ∧ s.result = .ok .awaitChange ∧
    s.integration.status = none ∧ ¬ s.Told (c.history ++ [s]) := by
  have known : (remembered watched).isCurrent "bridge" reborn.spec.fingerprint = true := by
    rw [LastSeen.isCurrent, beq_iff_eq]
    exact Table.get?_insert_self _ _ _
  refine ⟨anew, ⟨reborn, default, .ok .awaitChange, []⟩, reached_anew, rfl,
    (Sighting.Story.current rfl known).sees, rfl, rfl, rfl, ?_⟩
  rintro ⟨r, mem, own, -, status, written, -⟩
  obtain rfl | rfl : r = Sighting.accepted watched ∨ r = ⟨reborn, default, .ok .awaitChange, []⟩ := by
    simpa [anew, bare, told, store] using mem
  · exact absurd own (by decide)
  · exact absurd written List.not_mem_nil

end Scene

end RegistryBridge
