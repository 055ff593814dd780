import RegistryBridge.Proofs.Import.Pass
import RegistryBridge.Proofs.Pass.Only
import RegistryBridge.Proofs.Pass.Script
import RegistryBridge.Proofs.World.Quiet
/-!
# The ways in which a pass over a build goes

A pass over a build has few ways to go, whatever it is answered. It reads, it imports, it marks; at
each of these it may be turned back, and what has been asked by then tells how far it came.

## Main definitions

* `BuildPass.ImportStory`, `BuildPass.Story`: the ways, each with all that is asked and answered.
* `BuildPass.Hindered`: what keeps a pass from importing.
* `BuildPass.Accounted`: what is true of a pass by its story.

## Main results

* `BuildPass.pass_story`: a pass goes in one of these ways, and marks only what it has imported.
* `BuildPass.Story.accounted`
-/

namespace RegistryBridge

/-- Whether a build is to be marked. -/
def Question.marks : Question → Bool
  | cluster (.noteBuild ..) => true
  | _ => false

namespace BuildPass

/-- The import of an image that was pushed. -/
def importCall (d : Destination) (image : String) (i : Integration) (stream : ImageStream) :
    ClusterCall :=
  .createImport (importRequest d stream.metadata.resourceVersion image i.spec)

/-- The mark on a build that has been imported. -/
def markCall (b : Build) : ClusterCall :=
  .noteBuild (b.metadata.ns.getD "") b.metadata.displayName Marks.imported Marks.on

/-- What has been read once there is one integration, and the image stream is there. -/
def located (d : Destination) (i : Integration) (stream : ImageStream) : Transcript Bridge :=
  [.cluster .listIntegrations (.ok [i]),
    .cluster (.getImageStream d.ns d.name) (.ok (some stream))]

/-- The event about an import. -/
def importedEvent (b : Build) (d : Destination) (image : String) : Event :=
  Transition.imageImported.event (Resource.reference b) ("Imported " ++ image ++ " into " ++ d.text)

variable {b : Build} {d : Destination} {image : String}

/-- **The ways in which an import goes**, with all that is asked and answered. -/
inductive ImportStory (b : Build) (d : Destination) (image : String) :
    Transcript Bridge → Except Failure Action → Prop
  /-- The integrations cannot be listed. -/
  | unlisted (e : OperationError) :
    ImportStory b d image [.cluster .listIntegrations (.error e)]
      (.error (Failure.ofError (Resource.reference b) "Error listing QuayIntegrations" e))
  /-- There is none, or more than one. -/
  | unsettled {all : List Integration} {failure : Failure}
    (counted : Integration.required (Resource.reference b) all = .error failure) :
    ImportStory b d image [.cluster .listIntegrations (.ok all)] (.error failure)
  /-- The image stream cannot be read. -/
  | unread (i : Integration) (e : OperationError) :
    ImportStory b d image
      [.cluster .listIntegrations (.ok [i]), .cluster (.getImageStream d.ns d.name) (.error e)]
      (.error ((streamFailure (Resource.reference b) d "Unable to locate ImageStream").causedBy
        (.operation e)))
  /-- The image stream is not there. -/
  | missing (i : Integration) :
    ImportStory b d image
      [.cluster .listIntegrations (.ok [i]), .cluster (.getImageStream d.ns d.name) (.ok none)]
      (.error (streamFailure (Resource.reference b) d "Unable to locate ImageStream"))
  /-- The import is refused. -/
  | refused (i : Integration) (stream : ImageStream) (e : OperationError) :
    ImportStory b d image
      (located d i stream ++ [.cluster (importCall d image i stream) (.error e)])
      (.error ((streamFailure (Resource.reference b) d
        "Error occurred creating ImageStreamImport").causedBy (.operation e)))
  /-- The import is accepted, but the build cannot be marked. -/
  | unmarked (i : Integration) (stream : ImageStream) (e : OperationError) :
    ImportStory b d image
      (located d i stream ++ [.cluster (importCall d image i stream) (.ok ()),
        .cluster (markCall b) (.error e)])
      (.error ((buildFailure b "Error occurred updating Build").causedBy (.operation e)))
  /-- The import is accepted, and the build is marked. -/
  | imported (i : Integration) (stream : ImageStream) :
    ImportStory b d image
      (located d i stream ++ [.cluster (importCall d image i stream) (.ok ()),
        .cluster (markCall b) (.ok ()), .published (importedEvent b d image)])
      (.ok .awaitChange)

/-- **The ways in which a pass over a build goes**, its failure not yet reported. -/
inductive Story (b : Build) : Transcript Bridge → Except Failure Action → Prop
  /-- The build is not ready to be imported. -/
  | asleep (phase : BuildPhase.of b ≠ .ready) : Story b [] (.ok .awaitChange)
  /-- Nothing is written down about its destination. -/
  | aimless (phase : BuildPhase.of b = .ready)
    (aim : b.metadata.note? Marks.destination = none) : Story b [] (.ok .awaitChange)
  /-- What is written down is not a destination. -/
  | misdirected {raw : String} {e : DestinationError} (phase : BuildPhase.of b = .ready)
    (aim : b.metadata.note? Marks.destination = some raw)
    (malformed : Destination.parse raw = .error e) :
    Story b [] (.error (destinationFailure b raw e))
  /-- The build names no image that it has pushed. -/
  | imageless {raw : String} {d : Destination} (phase : BuildPhase.of b = .ready)
    (aim : b.metadata.note? Marks.destination = some raw)
    (plain : Destination.parse raw = .ok d) (image : pushedImage b = none) :
    Story b [] (.error (buildFailure b "Build has no output image"))
  /-- There is something to import. -/
  | importing {d : Destination} {image : String} {t : Transcript Bridge}
    {result : Except Failure Action} (ready : Ready b d image)
    (story : ImportStory b d image t result) : Story b t result

/-- The transcript of a pass once its failure has been reported. -/
def reported (t : Transcript Bridge) : Except Failure Action → Transcript Bridge
  | .ok _ => t
  | .error failure => t ++ [.published (Event.ofFailure failure)]

/-- **A build is marked only once its import has been accepted**, and only as imported. -/
def MarksImported (b : Build) (question : Question) (t : Transcript Bridge) : Prop :=
  question.marks = true → question = .cluster (markCall b) ∧
    ∃ d image i stream, Ready b d image ∧ .cluster (importCall d image i stream) (.ok ()) ∈ t

theorem MarksImported.of_other {question : Question} {t : Transcript Bridge}
    (other : question.marks = false) : MarksImported b question t := by
  intro marks
  rw [other] at marks
  cases marks

/-! ## Every pass has a story -/

theorem importImage_story (ready : Ready b d image) :
    (importImage b d image).Always (.script Bridge) (MarksImported b)
      (fun action t => ImportStory b d image t (.ok action))
      (fun failure t => ImportStory b d image t (.error failure)) [] := by
  unfold importImage Pass.integration
  rw [Step.always_bind, Step.always_bind, Step.always_cluster_script]
  refine ⟨.of_other rfl, fun all => ?_, fun e => .unlisted e⟩
  rw [Step.always_of]
  cases counted : Integration.required (Resource.reference b) all with
  | error failure => exact .unsettled counted
  | ok i =>
    obtain rfl := Integration.eq_of_required counted
    dsimp only
    rw [Step.always_bind, Step.always_cluster_script]
    refine ⟨.of_other rfl, fun found => ?_, fun e => .unread i e⟩
    cases found with
    | none => exact .missing i
    | some stream =>
      dsimp only
      rw [Step.always_bind, Step.always_cluster_script]
      refine ⟨.of_other rfl, fun _ => ?_, fun e => .refused i stream e⟩
      rw [Step.always_bind, Step.always_cluster_script]
      refine ⟨?_, fun _ => ?_, fun e => .unmarked i stream e⟩
      · exact fun _ => ⟨rfl, d, image, i, stream, ready, .tail _ (.tail _ (.head _))⟩
      · rw [Step.always_bind, Step.always_tell_script]
        exact ⟨.of_other rfl, .imported i stream⟩

theorem step_story (b : Build) :
    (step b).Always (.script Bridge) (MarksImported b)
      (fun action t => Story b t (.ok action))
      (fun failure t => Story b t (.error failure)) [] := by
  by_cases phase : BuildPhase.of b = .ready
  · unfold step
    rw [phase]
    dsimp only
    cases aim : b.metadata.note? Marks.destination with
    | none => exact .aimless phase aim
    | some raw =>
      dsimp only
      cases plain : Destination.parse raw with
      | error e => exact .misdirected phase aim plain
      | ok d =>
        dsimp only
        cases pushed : pushedImage b with
        | none => exact .imageless phase aim plain pushed
        | some image =>
          have text := (Destination.parse_eq_ok_iff.mp plain).1
          have ready : Ready b d image := ⟨phase, text ▸ aim, text ▸ plain, pushed⟩
          exact (importImage_story ready).mono (fun _ _ => id) (fun _ _ => .importing ready)
            fun _ _ => .importing ready
  · have asleep : step b = pure .awaitChange := by
      unfold step
      split
      · exact absurd ‹_› phase
      · rfl
    rw [asleep]
    exact .asleep phase

/-- **A pass goes in one of these ways**, whatever it is answered, and marks only what it has
imported. -/
theorem pass_story (b : Build) :
    (pass b).Always (.script Bridge) (MarksImported b)
      (fun result t => ∃ told, Story b told result ∧ t = reported told result) [] := by
  refine Pass.always_reporting_script ((step_story b).mono (fun _ _ => id) ?_ ?_)
  · exact fun action t story => ⟨t, story, rfl⟩
  · exact fun failure t story => ⟨.of_other rfl, t, story, rfl⟩

/-! ## What a story says -/

/-- **An answer that turns a pass back**: the integrations cannot be listed or are not one, the image
stream cannot be read or is absent. -/
inductive TurnsBack : Exchange Bridge → Prop
  | unlisted (e : OperationError) : TurnsBack (.cluster .listIntegrations (.error e))
  | unsettled {all : List Integration} (several : all.length ≠ 1) :
    TurnsBack (.cluster .listIntegrations (.ok all))
  | unread (ns name : String) (e : OperationError) :
    TurnsBack (.cluster (.getImageStream ns name) (.error e))
  | missing (ns name : String) : TurnsBack (.cluster (.getImageStream ns name) (.ok none))

/-- **What keeps a pass from importing**: a malformed destination, no output image, or an answer that
turns the pass back. -/
inductive Hindered (b : Build) (t : Transcript Bridge) : Prop
  | misdirected {raw : String} {e : DestinationError} (phase : BuildPhase.of b = .ready)
    (aim : b.metadata.note? Marks.destination = some raw)
    (malformed : Destination.parse raw = .error e)
  | imageless {raw : String} (phase : BuildPhase.of b = .ready)
    (aim : b.metadata.note? Marks.destination = some raw) (image : pushedImage b = none)
  | turned {e : Exchange Bridge} (heard : e ∈ t) (back : TurnsBack e)

/-- Something that was to be changed has not been. -/
def Refused (t : Transcript Bridge) : Prop :=
  ∃ e ∈ t, e.query.isQuiet = false ∧ e.Fails

/-- **What is true of a pass** by its transcript: over a build that is not ready it asks nothing; it
fails exactly when it was kept from importing or a write was refused; and when it was kept from
importing it has only read, and reported its failure. -/
structure Accounted (b : Build) (t : Transcript Bridge) (result : Except Failure Action) :
    Prop where
  idle : BuildPhase.of b ≠ .ready → t = [] ∧ result = .ok .awaitChange
  failed : (∃ failure, result = .error failure) ↔ Hindered b t ∨ Refused t
  unwritten : Hindered b t → ∀ e ∈ t, e.query.isQuiet = true ∨
    ∃ failure, result = .error failure ∧ e = .published (Event.ofFailure failure)

variable {t : Transcript Bridge} {result : Except Failure Action}

theorem not_failed_of_ok (action : Action) :
    ¬ ∃ failure, (.ok action : Except Failure Action) = .error failure := by
  rintro ⟨_, ⟨⟩⟩

/-- A report is no answer that turns a pass back. -/
theorem exists_turnsBack_reported :
    (∃ e ∈ reported t result, TurnsBack e) ↔ ∃ e ∈ t, TurnsBack e := by
  cases result with
  | ok action => rfl
  | error failure =>
    have report : ¬ TurnsBack (.published (Event.ofFailure failure)) := nofun
    simp [reported, or_and_right, exists_or, report]

theorem refused_reported : Refused (reported t result) ↔ Refused t := by
  cases result with
  | ok action => rfl
  | error failure =>
    simp [Refused, reported, or_and_right, exists_or, Exchange.not_fails_published]

theorem not_turnsBack_located {i : Integration} {stream : ImageStream} :
    ∀ e ∈ located d i stream, ¬ TurnsBack e := by
  rw [located, List.forall_mem_cons, List.forall_mem_singleton]
  refine ⟨?_, nofun⟩
  rintro (_ | several)
  exact several rfl

theorem sound_located {i : Integration} {stream : ImageStream} :
    Transcript.Sound (located d i stream) := by
  rw [located, Transcript.sound_cons, Transcript.sound_singleton]
  exact ⟨Exchange.not_fails_cluster_ok _ _, Exchange.not_fails_cluster_ok _ _⟩

/-- **An import is turned back while it only reads**, or it fails exactly when it is refused what it
writes. -/
theorem ImportStory.ending (story : ImportStory b d image t result) :
    ((∃ failure, result = .error failure) ∧ (∃ e ∈ t, TurnsBack e) ∧
        ∀ e ∈ t, e.query.isQuiet = true) ∨
      ((∀ e ∈ t, ¬ TurnsBack e) ∧ ((∃ failure, result = .error failure) ↔ Refused t)) := by
  cases story with
  | unlisted e =>
    refine .inl ⟨⟨_, rfl⟩, ⟨_, .head _, .unlisted e⟩, ?_⟩
    simp [Question.isQuiet, ClusterCall.isWrite]
  | unsettled counted =>
    refine .inl ⟨⟨_, rfl⟩, ⟨_, .head _, .unsettled fun one => ?_⟩, ?_⟩
    · obtain ⟨i, rfl⟩ := List.length_eq_one_iff.mp one
      cases counted
    · simp [Question.isQuiet, ClusterCall.isWrite]
  | unread i e =>
    refine .inl ⟨⟨_, rfl⟩, ⟨_, .tail _ (.head _), .unread _ _ e⟩, ?_⟩
    simp [Question.isQuiet, ClusterCall.isWrite]
  | missing i =>
    refine .inl ⟨⟨_, rfl⟩, ⟨_, .tail _ (.head _), .missing _ _⟩, ?_⟩
    simp [Question.isQuiet, ClusterCall.isWrite]
  | refused i stream e =>
    refine .inr ⟨List.forall_mem_append.mpr ⟨not_turnsBack_located, ?_⟩, fun _ => ?_,
      fun _ => ⟨_, rfl⟩⟩
    · exact List.forall_mem_singleton.mpr (by rintro ⟨⟩)
    · exact ⟨_, List.mem_append_right _ (.head _), rfl, e, rfl⟩
  | unmarked i stream e =>
    refine .inr ⟨List.forall_mem_append.mpr ⟨not_turnsBack_located, ?_⟩, fun _ => ?_,
      fun _ => ⟨_, rfl⟩⟩
    · exact List.forall_mem_cons.mpr ⟨by rintro ⟨⟩, List.forall_mem_singleton.mpr (by rintro ⟨⟩)⟩
    · exact ⟨_, List.mem_append_right _ (.tail _ (.head _)), rfl, e, rfl⟩
  | imported i stream =>
    refine .inr ⟨List.forall_mem_append.mpr ⟨not_turnsBack_located, ?_⟩, ?_, ?_⟩
    · refine List.forall_mem_cons.mpr ⟨by rintro ⟨⟩, List.forall_mem_cons.mpr ⟨by rintro ⟨⟩, ?_⟩⟩
      exact List.forall_mem_singleton.mpr (by rintro ⟨⟩)
    · exact fun failed => absurd failed (not_failed_of_ok _)
    · have sound : Transcript.Sound [.cluster (importCall d image i stream) (.ok ()),
          .cluster (markCall b) (.ok ()), .published (importedEvent b d image)] := by
        simp only [Transcript.sound_cons]
        exact ⟨Exchange.not_fails_cluster_ok _ _, Exchange.not_fails_cluster_ok _ _,
          Exchange.not_fails_published _, List.forall_mem_nil _⟩
      rintro ⟨e, mem, -, fails⟩
      exact absurd fails (Transcript.sound_append.mpr ⟨sound_located, sound⟩ e mem)

/-- A build that is ready has all it takes, so that only an answer keeps a pass from importing it. -/
theorem hindered_iff_of_ready (ready : Ready b d image) :
    Hindered b (reported t result) ↔ ∃ e ∈ t, TurnsBack e := by
  have heard_iff : (∃ e ∈ reported t result, TurnsBack e) ↔ ∃ e ∈ t, TurnsBack e :=
    exists_turnsBack_reported
  rw [← heard_iff]
  constructor
  · rintro (⟨-, aim, malformed⟩ | ⟨-, -, none⟩ | ⟨heard, back⟩)
    · obtain rfl := Option.some.inj (ready.destination.symm.trans aim)
      rw [ready.plain] at malformed
      cases malformed
    · exact absurd (ready.image.symm.trans none) nofun
    · exact ⟨_, heard, back⟩
  · rintro ⟨e, heard, back⟩
    exact .turned heard back

theorem ImportStory.accounted (ready : Ready b d image) (story : ImportStory b d image t result) :
    Accounted b (reported t result) result := by
  refine ⟨absurd ready.phase, ?_, fun hindered => ?_⟩
  · rw [hindered_iff_of_ready ready, refused_reported]
    rcases story.ending with ⟨failed, turned, -⟩ | ⟨onward, failed⟩
    · exact iff_of_true failed (.inl turned)
    · rw [failed]
      exact ⟨.inr, fun h => h.resolve_left fun ⟨e, heard, back⟩ => onward e heard back⟩
  · obtain ⟨e, heard, back⟩ := (hindered_iff_of_ready ready).mp hindered
    rcases story.ending with ⟨⟨failure, rfl⟩, -, quiet⟩ | ⟨onward, -⟩
    · refine List.forall_mem_append.mpr ⟨fun e mem => .inl (quiet e mem), ?_⟩
      exact List.forall_mem_singleton.mpr (.inr ⟨failure, rfl, rfl⟩)
    · exact absurd back (onward e heard)

/-- A pass that asks nothing about a build that does not hinder it has not failed. -/
theorem accounted_of_unasked (unhindered : ¬ Hindered b []) :
    Accounted b [] (.ok .awaitChange) := by
  refine ⟨fun _ => ⟨rfl, rfl⟩, ?_, fun _ => List.forall_mem_nil _⟩
  refine iff_of_false (not_failed_of_ok _) ?_
  rintro (hindered | ⟨_, none, -⟩)
  · exact unhindered hindered
  · cases none

/-- A pass that is hindered by the build itself reports so, and asks nothing. -/
theorem accounted_of_reported {failure : Failure} (phase : BuildPhase.of b = .ready)
    (hindered : Hindered b (reported [] (.error failure : Except Failure Action))) :
    Accounted b (reported [] (.error failure)) (.error failure) := by
  refine ⟨absurd phase, iff_of_true ⟨failure, rfl⟩ (.inl hindered), fun _ => ?_⟩
  exact List.forall_mem_singleton.mpr (.inr ⟨failure, rfl, rfl⟩)

/-- **What a pass has asked accounts for it.** -/
theorem Story.accounted (story : Story b t result) : Accounted b (reported t result) result := by
  cases story with
  | asleep phase =>
    refine accounted_of_unasked ?_
    rintro (⟨ready⟩ | ⟨ready⟩ | ⟨none⟩)
    · exact phase ready
    · exact phase ready
    · cases none
  | aimless phase aim =>
    refine accounted_of_unasked ?_
    rintro (⟨-, aim'⟩ | ⟨-, aim'⟩ | ⟨none⟩)
    · exact absurd (aim.symm.trans aim') nofun
    · exact absurd (aim.symm.trans aim') nofun
    · cases none
  | misdirected phase aim malformed =>
    exact accounted_of_reported phase (.misdirected phase aim malformed)
  | imageless phase aim plain image =>
    exact accounted_of_reported phase (.imageless phase aim image)
  | importing ready story => exact story.accounted ready

end BuildPass

end RegistryBridge
