import RegistryBridge.Proofs.Destination.Grammar
import RegistryBridge.Proofs.World.Rehearsed
/-!
# What a pass over a build asks

A build that is ready has its image imported once: the pass asks for one import and marks the build.
It asks nothing about a build that has been marked.

## Main definitions

* `BuildPass.questions`: all that is asked about a build that is ready.
* `BuildPass.Ready`: a build that is ready, with its destination and its image.

## Main results

* `BuildPass.reconcile_ready`: a pass over a build that is ready.
* `BuildPass.pass_of_imported`: a pass over a build whose image has been imported.
-/

namespace RegistryBridge.BuildPass

/-- **All that is asked about a build that is ready**, in order. -/
def questions (b : Build) (d : Destination) (image : String) (request : ImageStreamImport) :
    List Question :=
  [.cluster .listIntegrations, .cluster (.getImageStream d.ns d.name),
    .cluster (.createImport request),
    .cluster (.noteBuild (b.metadata.ns.getD "") b.metadata.displayName Marks.imported Marks.on),
    .publish (Transition.imageImported.event (Resource.reference b)
      ("Imported " ++ image ++ " into " ++ d.text))]

/-- A build that is ready, with its destination and its image. -/
structure Ready (b : Build) (d : Destination) (image : String) : Prop where
  phase : BuildPhase.of b = .ready
  destination : b.metadata.note? Marks.destination = some d.text
  plain : Destination.parse d.text = .ok d
  image : pushedImage b = some image

variable {b : Build} {d : Destination} {image : String} {i : Integration} {stream : ImageStream}
  {r : Rehearsal}

theorem take_importImage (honest : r.arranged = []) (single : r.world.cluster.integrations = [i])
    (found : (r.world.cluster.answer (.getImageStream d.ns d.name)).1 = some stream) :
    r.take (importImage b d image) =
      (.ok .awaitChange,
        { r with
          world := { r.world with
            cluster := r.world.cluster.noted (b.metadata.ns.getD "") b.metadata.displayName
              Marks.imported Marks.on }
          asked := r.asked ++ questions b d image
            (importRequest d stream.metadata.resourceVersion image i.spec) }) := by
  have look : Rehearsal.take (Step.cluster (.getImageStream d.ns d.name) fun e =>
      (streamFailure (Resource.reference b) d "Unable to locate ImageStream").causedBy
        (.operation e)) (r.asking (.cluster .listIntegrations) r.world.cluster) =
      (.ok (some stream), (r.asking (.cluster .listIntegrations) r.world.cluster).asking
        (.cluster (.getImageStream d.ns d.name)) r.world.cluster) := by
    rw [← found]
    exact Rehearsal.take_cluster (by exact honest) _ _
  unfold importImage
  refine (Rehearsal.take_bind_of_ok (Rehearsal.take_integration honest single _)).trans ?_
  refine (Rehearsal.take_bind_of_ok look).trans ?_
  -- The import leaves the cluster as it is; the mark does not.
  refine (Rehearsal.take_bind_of_ok (Rehearsal.take_cluster ?_ _ _)).trans ?_
  · exact honest
  refine (Rehearsal.take_bind_of_ok (Rehearsal.take_cluster ?_ _ _)).trans ?_
  · exact honest
  refine (Rehearsal.take_bind_of_ok (Rehearsal.take_tell ?_ _ _ _)).trans ?_
  · exact honest
  show (_, _) = _
  simp only [Rehearsal.asking, List.append_assoc]
  rfl

theorem step_of_ready (h : Ready b d image) : step b = importImage b d image := by
  unfold step
  rw [h.phase]
  dsimp only
  rw [h.destination]
  dsimp only
  rw [h.plain]
  dsimp only
  rw [h.image]

/-- **A pass over a build that is ready** asks for one import, and marks the build. -/
theorem reconcile_ready (h : Ready b d image) (honest : r.arranged = [])
    (single : r.world.cluster.integrations = [i])
    (found : (r.world.cluster.answer (.getImageStream d.ns d.name)).1 = some stream) :
    r.reconcileBuild b =
      (.ok .awaitChange,
        { r with
          world := { r.world with
            cluster := r.world.cluster.noted (b.metadata.ns.getD "") b.metadata.displayName
              Marks.imported Marks.on }
          asked := r.asked ++ questions b d image
            (importRequest d stream.metadata.resourceVersion image i.spec) }) := by
  refine Rehearsal.run_reporting_of_ok ?_
  rw [step_of_ready h]
  exact take_importImage honest single found

/-- **A pass over a build whose image has been imported** asks nothing. -/
theorem pass_of_imported (managed : b.metadata.noted Marks.managed = true)
    (imported : b.metadata.noted Marks.imported = true) : pass b = .done (.ok .awaitChange) := by
  have phase : BuildPhase.of b = .imported := by
    simp [BuildPhase.of, managed, imported]
  unfold pass step
  rw [phase]
  rfl

end RegistryBridge.BuildPass
