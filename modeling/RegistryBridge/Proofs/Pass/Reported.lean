import RegistryBridge.Proofs.Import.Story
import RegistryBridge.Proofs.Lifetime.Reach
import RegistryBridge.Proofs.Observation.History
import RegistryBridge.Proofs.Provisioning.Announced
/-!
# Failures are reported once and tried again

Whatever a pass is answered, over a namespace, a build or an integration: when it fails it tells of
that failure, once, at the object it is over, and is tried again after five seconds. When it succeeds
it tells of none. Either way it tells of the changes that it has completed, and of no others.

## Main results

* `NamespacePass.stepBy_announces`: a pass over a namespace tells of what it completes.
* `BuildPass.Story.announced`: so does every story of a build.
* `passes_reported`: it holds of all passes.
-/

namespace RegistryBridge

/-! ## Namespaces -/

namespace NamespacePass

variable {object : ObjectReference} {spec : IntegrationSpec} {name : String}

theorem opening_isSilent {question : Question} (first : Pass.Opening question) :
    question.isSilent = true := by
  cases first <;> rfl

theorem takeIn_announces : (takeIn object spec name).Announces object := by
  intro t announced
  rw [takeIn, Step.always_bind, Step.always_cluster_script]
  refine ⟨trivial, fun value => ?_, fun e => announced.silent rfl rfl⟩
  have completes : (Exchange.cluster (.holdFinalizer name Marks.finalizer) (.ok value)).completes =
      some .namespaceManaged := rfl
  rw [Step.always_bind, Step.always_tell_script]
  exact ⟨trivial, announced.told completes nofun _⟩

/-- **That the organization has been deleted is told** when the registry has answered so. -/
theorem dropOrganization_announces (organization : String) :
    (dropOrganization object organization).Announces object := by
  refine .bind (.of_silent (.registry rfl)) fun found => .ite (.pure _) (.ite ?_ (.fail _))
  intro t announced
  rw [Step.always_bind, Step.always_registry_script]
  refine ⟨trivial, fun gone => ?_, fun e => announced.silent rfl rfl⟩
  by_cases status : gone.status = 204
  · have completes : (Exchange.registry (.deleteOrganization organization) (.ok gone)).completes =
        some .organizationDeleted := if_pos status
    rw [if_neg (by simpa using status), Step.always_tell_script]
    exact ⟨trivial, announced.told completes nofun _⟩
  · rw [if_pos status]
    exact announced.silent rfl (if_neg status)

theorem release_announces : (release object spec name).Announces object := by
  refine .bind (.of_silent (Pass.connect_only.mono fun _ => opening_isSilent)) fun _ => ?_
  refine .bind (dropOrganization_announces _) fun _ => ?_
  exact .of_silent (.bind (.cluster rfl) fun _ => .pure _)

theorem provisionBy_announces (turns : Turns) :
    (provisionBy turns object spec name).Announces object := by
  refine .bind (.of_silent (Pass.connect_only.mono fun _ => opening_isSilent)) fun _ => ?_
  cases Registry.host spec.hostname with
  | error e => exact .fail _
  | ok host =>
    have provisions :=
      Provisioning.stepsBy_announces (p := { object, ns := name, host, spec }) turns
    exact .bind provisions fun _ => .pure _

/-- **A pass over a namespace tells of what it completes**, in whatever way service accounts take
turns. -/
theorem stepBy_announces (turns : Turns) (n : Namespace) :
    (stepBy turns n).Announces (Resource.reference n) := by
  refine .bind (.of_silent (Pass.integration_only.mono fun _ => opening_isSilent)) fun i => ?_
  show (inPhaseBy turns _ _ _ (phase n i)).Announces _
  cases phase n i with
  | managed => exact provisionBy_announces turns
  | pending => exact takeIn_announces
  | terminating => exact release_announces
  | unmanaged | initializing | gone => exact .pure _

end NamespacePass

/-! ## Builds -/

namespace BuildPass

variable {b : Build} {d : Destination} {image : String} {t : Transcript Bridge}
  {result : Except Failure Action}

theorem importImage_loses :
    (importImage b d image).Loses (Failure.Ordinary (Resource.reference b)) := by
  refine .bind Pass.integration_loses fun i => .bind (.cluster fun _ => ⟨rfl, rfl⟩) fun found => ?_
  cases found with
  | none => exact .fail ⟨rfl, rfl⟩
  | some stream =>
    refine .bind (.cluster fun _ => ⟨rfl, rfl⟩) fun _ => ?_
    refine .bind (.cluster fun _ => ⟨rfl, rfl⟩) fun _ => ?_
    exact .bind (.tell _ _ _) fun _ => .pure _

/-- **A failed pass regards its build**, and is tried again, whatever it is told. -/
theorem step_loses (b : Build) : (step b).Loses (Failure.Ordinary (Resource.reference b)) := by
  unfold step
  cases BuildPhase.of b with
  | ready =>
    dsimp only
    cases b.metadata.note? Marks.destination with
    | none => exact .pure _
    | some raw =>
      dsimp only
      cases Destination.parse raw with
      | error e => exact .fail ⟨rfl, rfl⟩
      | ok d =>
        dsimp only
        cases pushedImage b with
        | none => exact .fail ⟨rfl, rfl⟩
        | some image => exact importImage_loses
  | _ => exact .pure _

/-- Settings and the image stream are read in silence. -/
theorem located_announced (i : Integration) (stream : ImageStream) :
    Announced (Resource.reference b) (located d i stream) :=
  .of_silent (List.forall_mem_cons.mpr ⟨⟨rfl, rfl⟩, List.forall_mem_singleton.mpr ⟨rfl, rfl⟩⟩)

/-- So is the image stream asked to import. -/
theorem accepted_announced (i : Integration) (stream : ImageStream) :
    Announced (Resource.reference b)
      (located d i stream ++ [.cluster (importCall d image i stream) (.ok ())]) :=
  (located_announced i stream).silent rfl rfl

/-- **An import is told of** when it was accepted and the build has been marked. -/
theorem ImportStory.announced (story : ImportStory b d image t result) :
    Announced (Resource.reference b) t := by
  cases story with
  | unlisted | unsettled => exact .of_silent (List.forall_mem_singleton.mpr ⟨rfl, rfl⟩)
  | unread | missing =>
    exact .of_silent (List.forall_mem_cons.mpr ⟨⟨rfl, rfl⟩, List.forall_mem_singleton.mpr ⟨rfl, rfl⟩⟩)
  | refused i stream e => exact (located_announced i stream).silent rfl rfl
  | unmarked i stream e =>
    have marked : Announced (Resource.reference b) (located d i stream ++
        [.cluster (importCall d image i stream) (.ok ())] ++ [.cluster (markCall b) (.error e)]) :=
      (accepted_announced i stream).silent rfl rfl
    rwa [List.append_assoc] at marked
  | imported i stream =>
    have completes : (Exchange.cluster (markCall b) (.ok ())).completes = some .imageImported := rfl
    have accepted : Announced (Resource.reference b)
        (located d i stream ++ [.cluster (importCall d image i stream) (.ok ())]) :=
      accepted_announced i stream
    have told := accepted.told completes (fun _ => ⟨_, List.mem_append_right _ (.head _)⟩)
      ("Imported " ++ image ++ " into " ++ d.text)
    rwa [List.append_assoc, List.append_assoc] at told

theorem Story.announced (story : Story b t result) : Announced (Resource.reference b) t := by
  cases story with
  | asleep | aimless | misdirected | imageless => exact .nil
  | importing _ story => exact story.announced

end BuildPass

/-! ## Integrations -/

namespace IntegrationPass

theorem statusFailure_ordinary (i : Integration) (e : OperationError) :
    (statusFailure i e).Ordinary (Resource.reference i) :=
  ⟨rfl, rfl⟩

end IntegrationPass

theorem Sighting.Story.reports {s : Sighting} {seen after : LastSeen} (story : Story seen s after) :
    Reports (Resource.reference s.integration) s.result s.transcript := by
  cases story with
  | deleted | current => exact .of_ok .nil _
  | reported => exact .of_ok (.silent .nil rfl rfl) _
  | refused _ _ e =>
    exact .of_error (.silent .nil rfl rfl) (IntegrationPass.statusFailure_ordinary _ e)

/-! ## All passes -/

/-- **Failures are reported once and tried again**, and changes are told of when they have been
completed, by every pass, whatever it is answered. -/
theorem passes_reported :
    (∀ (turns : Turns) (n : Namespace), (NamespacePass.passBy turns n).Always (.script Bridge)
      (fun _ _ => True) (Reports (Resource.reference n)) []) ∧
    (∀ b : Build, (BuildPass.pass b).Always (.script Bridge) (fun _ _ => True)
      (Reports (Resource.reference b)) []) ∧
    ∀ (now : Instant) (seen : LastSeen) (i : Integration),
      (IntegrationPass.pass now seen i).Always (.script Bridge) (fun _ _ => True)
        (fun out t => Reports (Resource.reference i) out.1 t) [] := by
  refine ⟨fun turns n => ?_, fun b => ?_, fun now seen i => ?_⟩
  · exact Pass.reports (NamespacePass.stepBy_announces turns n) (NamespacePass.stepBy_loses turns n)
  · refine Pass.always_reporting_script
      (((BuildPass.step_story b).losing (BuildPass.step_loses b)).mono (fun _ _ _ => trivial) ?_ ?_)
    · exact fun action t story => .of_ok story.announced action
    · exact fun failure t h => ⟨trivial, .of_error h.1.announced h.2⟩
  · exact (Sighting.pass_story now seen i).mono (fun _ _ => id) fun _ _ story => story.reports

end RegistryBridge
