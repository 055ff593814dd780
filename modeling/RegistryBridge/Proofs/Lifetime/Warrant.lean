import RegistryBridge.Proofs.Provisioning.Convergence
/-!
# What a pass over a namespace does only when it has heard enough

Whatever a pass is answered, it makes only what it has been told is missing, deletes only what it has
been told is there, and lets the finalizer go only when it has been told that the organization is
gone. Where an answer tells nothing of the kind, the pass fails, and what would have come next is not
asked. So it is in whatever way service accounts take turns.

## Main definitions

* `NamespacePass.Counted`, `NamespacePass.Connected`, `NamespacePass.Gone`: how far a pass has come,
  by what has been heard.
* `NamespacePass.Warranted`: what may be asked after what.

## Main results

* `NamespacePass.passBy_heeds`: a pass asks only what is warranted, and succeeds only when it has
  heard of no failure.
* `NamespacePass.pass_warranted`
-/

namespace RegistryBridge.NamespacePass

open Transcript (Then Lasting)

/-! ## What has been heard -/

/-- **The integration that counts** has been listed as the only one. -/
def Counted (i : Integration) : Transcript Bridge → Prop :=
  Then (fun _ => True)
    (ClusterCall.listIntegrations.Given fun (all : List Integration) => all = [i])

/-- **The registry of the integration** has been connected. -/
def Connected (i : Integration) : Transcript Bridge → Prop :=
  Then (Counted i) fun e => ∃ token,
    e = ⟨.connect i.spec.hostname token i.spec.insecure, (.ok () : Except RegistryError Unit)⟩

/-- The organization has been looked up, and is there. -/
def Standing (i : Integration) (organization : String) : Transcript Bridge → Prop :=
  Then (Connected i) ((RegistryCall.getOrganization organization).Answered (·.status = 200))

/-- **The organization is gone**: it was not there, or it has been deleted. -/
def Gone (i : Integration) (organization : String) (t : Transcript Bridge) : Prop :=
  Then (Connected i) ((RegistryCall.getOrganization organization).Answered (·.status = 404)) t ∨
    Then (Standing i organization)
      ((RegistryCall.deleteOrganization organization).Answered (·.status = 204)) t

/-- The phase of a namespace by the policy of an integration. -/
def phase (n : Namespace) (i : Integration) : NamespacePhase :=
  .of n (i.spec.allows n.metadata.displayName)

/-- **What may be asked after what** has been heard, in a pass over a namespace. -/
inductive Warranted (n : Namespace) : Question → Transcript Bridge → Prop
  | opening {question : Question} {t : Transcript Bridge} (first : Pass.Opening question) :
    Warranted n question t
  | holdFinalizer {i : Integration} {t : Transcript Bridge} (counted : Counted i t)
    (pending : phase n i = .pending) :
    Warranted n (.cluster (.holdFinalizer n.metadata.displayName Marks.finalizer)) t
  | takenIn {t : Transcript Bridge}
    (held : Then (fun _ => True)
      ((ClusterCall.holdFinalizer n.metadata.displayName Marks.finalizer).Given fun _ => True) t)
    (note : String) :
    Warranted n (.publish (Transition.namespaceManaged.event (Resource.reference n) note)) t
  | provision {i : Integration} {host : String} {question : Question} {t : Transcript Bridge}
    (connected : Connected i t) (managed : phase n i = .managed)
    (warranted : (provisioning n i host).Warranted question t) : Warranted n question t
  | getOrganization {i : Integration} {t : Transcript Bridge} (connected : Connected i t)
    (terminating : phase n i = .terminating) :
    Warranted n (.registry (.getOrganization (i.spec.organization n.metadata.displayName))) t
  | deleteOrganization {i : Integration} {t : Transcript Bridge}
    (standing : Standing i (i.spec.organization n.metadata.displayName) t)
    (terminating : phase n i = .terminating) :
    Warranted n (.registry (.deleteOrganization (i.spec.organization n.metadata.displayName))) t
  | deleted {i : Integration} {t : Transcript Bridge}
    (gone : Gone i (i.spec.organization n.metadata.displayName) t) (note : String) :
    Warranted n (.publish (Transition.organizationDeleted.event (Resource.reference n) note)) t
  | releaseFinalizer {i : Integration} {t : Transcript Bridge}
    (gone : Gone i (i.spec.organization n.metadata.displayName) t)
    (terminating : phase n i = .terminating) :
    Warranted n (.cluster (.releaseFinalizer n.metadata.displayName Marks.finalizer)) t
  | report (failure : Failure) {t : Transcript Bridge} :
    Warranted n (.publish (Event.ofFailure failure)) t

variable {n : Namespace} {i : Integration} {t : Transcript Bridge} {object : ObjectReference}

theorem counted_lasting (i : Integration) : Lasting (Counted i) :=
  .then .always _

theorem connected_lasting (i : Integration) : Lasting (Connected i) :=
  .then (counted_lasting i) _

theorem gone_lasting (i : Integration) (organization : String) : Lasting (Gone i organization) :=
  .or (.then (connected_lasting i) _) (.then (.then (connected_lasting i) _) _)

/-! ## The first steps -/

theorem integration_warranted :
    (Pass.integration object).Heeds (Warranted n) Counted t := by
  refine .cluster_bind (.opening .integrations) fun all => .of fun i chosen => ?_
  exact .snoc trivial ⟨all, rfl, Integration.eq_of_required chosen⟩

theorem connect_warranted (counted : Counted i t) :
    (Pass.connect object i.spec).Heeds (Warranted n) (fun _ => Connected i) t := by
  unfold Pass.connect
  cases i.spec.credentials with
  | none => exact .fail _
  | some entry =>
    refine .cluster_bind (.opening (.credentials ..)) fun found => ?_
    cases found with
    | none => exact .fail _
    | some secret =>
      dsimp only
      cases Credentials.token secret entry with
      | error e => exact .fail _
      | ok token =>
        refine ⟨.opening (.connect ..), ?_⟩
        rintro (e | ⟨⟩) _ rfl
        · trivial
        · have counted := (counted_lasting i).grow counted
            [.cluster (.getSecret entry.ns entry.name) (.ok (some secret))]
          refine ⟨.snoc counted ⟨token, rfl⟩, fun sound => sound.snoc ?_⟩
          rintro ⟨e, ⟨⟩⟩

/-! ## Phases -/

theorem takeIn_warranted (counted : Counted i t) (pending : phase n i = .pending) :
    (takeIn (Resource.reference n) i.spec n.metadata.displayName).Heeds (Warranted n)
      (fun _ _ => True) t := by
  refine .cluster_bind (.holdFinalizer counted pending) fun value => ?_
  exact .tell_bind (.takenIn (.snoc trivial ⟨value, rfl, trivial⟩) _) (.pure trivial)

theorem dropOrganization_warranted (connected : Connected i t)
    (terminating : phase n i = .terminating) :
    (dropOrganization (Resource.reference n)
      (i.spec.organization n.metadata.displayName)).Heeds (Warranted n)
      (fun _ => Gone i (i.spec.organization n.metadata.displayName)) t := by
  refine .registry_bind (.getOrganization connected terminating) (fun found status => ?_)
    fun found status => ?_
  · refine .ite (fun absent => .pure (.inl (.snoc connected ⟨found, rfl, absent⟩))) fun _ => ?_
    refine .ite (fun there => ?_) fun _ => .fail _
    have standing : Standing i (i.spec.organization n.metadata.displayName)
        (t ++ [.registry (.getOrganization _) (.ok found)]) :=
      .snoc connected ⟨found, rfl, there⟩
    refine .registry_bind (.deleteOrganization standing terminating) (fun gone status => ?_)
      fun gone status => ?_
    · have deleted : gone.status = 204 := by simpa [RegistryCall.telling] using status
      have absent : Gone i (i.spec.organization n.metadata.displayName)
          (_ ++ [.registry (.deleteOrganization _) (.ok gone)]) :=
        .inr (.snoc standing ⟨gone, rfl, deleted⟩)
      rw [if_neg (by simpa using deleted)]
      exact .tell (.deleted absent _) ((gone_lasting ..).grow absent _)
    · rw [if_pos (by simpa [RegistryCall.telling] using status)]
      exact ⟨_, rfl⟩
  · obtain ⟨noHit, noMiss⟩ := RegistryCall.notMem_telling_getOrganization.mp status
    rw [if_neg noMiss, if_neg noHit]
    exact ⟨_, rfl⟩

/-- **A namespace is let go** once its organization has been heard to be gone. -/
theorem release_warranted (counted : Counted i t) (terminating : phase n i = .terminating) :
    (release (Resource.reference n) i.spec n.metadata.displayName).Heeds (Warranted n)
      (fun action after => action = .awaitChange ∧
        Then (Gone i (i.spec.organization n.metadata.displayName))
          ((ClusterCall.releaseFinalizer n.metadata.displayName Marks.finalizer).Given
            fun _ => True) after) t := by
  refine .bind (connect_warranted counted) fun _ _ connected => ?_
  refine .bind (dropOrganization_warranted connected terminating) fun _ _ gone => ?_
  refine .cluster_bind (.releaseFinalizer gone terminating) fun value => .pure ?_
  exact ⟨rfl, .snoc gone ⟨value, rfl, trivial⟩⟩

theorem provisionBy_warranted (turns : Turns) (counted : Counted i t) (sound : t.Sound)
    (managed : phase n i = .managed) :
    (provisionBy turns (Resource.reference n) i.spec n.metadata.displayName).Heeds (Warranted n)
      (fun _ _ => True) t := by
  refine .bind ((connect_warranted counted).sound sound) fun _ after ⟨connected, sound⟩ => ?_
  cases Registry.host i.spec.hostname with
  | error e => exact .fail _
  | ok host =>
    have kept : ∀ t e, Connected i t → Connected i (t ++ [e]) :=
      fun _ _ connected => (connected_lasting i).grow connected _
    have provisions : (Provisioning.stepsBy turns (provisioning n i host)).Heeds (Warranted n)
        (fun _ _ => True) after :=
      ((Provisioning.stepsBy_warranted turns sound).keep kept connected).mono
        (fun _ _ h => .provision h.2 managed h.1) fun _ _ _ => trivial
    exact provisions.bind fun _ _ _ => .pure trivial

theorem inPhaseBy_warranted (turns : Turns) (counted : Counted i t) (sound : t.Sound) :
    (inPhaseBy turns (Resource.reference n) i.spec n.metadata.displayName (phase n i)).Heeds
      (Warranted n) (fun _ _ => True) t := by
  cases come : phase n i with
  | unmanaged | initializing | gone => exact .pure trivial
  | pending => exact takeIn_warranted counted come
  | terminating =>
    exact (release_warranted counted come).mono (fun _ _ => id) fun _ _ _ => trivial
  | managed => exact provisionBy_warranted turns counted sound come

/-- **The service accounts of a namespace** may take turns. -/
theorem roles_woven_warranted {host : String} (managed : phase n i = .managed)
    (connected : Connected i t) (founded : (provisioning n i host).Founded t) (sound : t.Sound)
    {woven : Program Bridge ({ role // role ∈ roles } → Except Failure Unit)}
    (weaves : Program.Weaves (provisioning n i host).roleProgram woven) :
    woven.Always (.script Bridge) (Warranted n)
      (fun results after => (∃ e ∈ after, e.Fails) →
        ∃ role failure, results role = .error failure) t := by
  have run := (Provisioning.roles_woven weaves founded sound).keep
    (fun _ _ _ _ allowed connected => allowed ▸ (connected_lasting i).grow connected _) connected
  refine run.mono ?_ fun _ _ h => h.1
  rintro question t ⟨⟨account, role, mem, warranted⟩, connected⟩
  exact .provision connected managed (.role mem warranted)

/-! ## A whole pass -/

/-- **A pass that succeeds has heard of no failure**, and has asked only what is warranted. -/
theorem passBy_heeds (turns : Turns) (n : Namespace) :
    (passBy turns n).Always (.script Bridge) (Warranted n)
      (fun result t => (∃ e ∈ t, e.Fails) → ∃ failure, result = .error failure) [] := by
  have quiet : Transcript.Sound [] := by simp [Transcript.Sound]
  have run : (stepBy turns n).Heeds (Warranted n) (fun _ _ => True) [] :=
    .bind (integration_warranted.sound quiet) fun i _ ⟨counted, sound⟩ =>
      inPhaseBy_warranted turns counted sound
  refine Pass.always_reporting_script
    (Step.Always.mono run (fun _ _ => id) ?_ fun failure _ _ => ?_)
  · rintro action t ⟨-, sound⟩ ⟨e, mem, fails⟩
    exact absurd fails (sound quiet e mem)
  · exact ⟨.report failure, fun _ => ⟨failure, rfl⟩⟩

/-- **A pass asks only what is warranted**, in whatever way service accounts take turns. Whatever it is
answered, it makes what it has been told is missing, deletes what it has been told is there, and lets
the finalizer go where the organization is gone. After an answer that says nothing, it ends with a
failure, and what hangs on that answer is not asked. So it is too for the service accounts alone, once
a pass has come to them, however it has come there. -/
theorem pass_warranted (n : Namespace) :
    (∀ turns : Turns, (passBy turns n).Always (.script Bridge) (Warranted n)
        (fun result t => (∃ e ∈ t, e.Fails) → ∃ failure, result = .error failure) []) ∧
      ∀ (i : Integration) (host : String) (t : Transcript Bridge), phase n i = .managed →
        Connected i t → (provisioning n i host).Founded t → t.Sound →
          ∀ woven, Program.Weaves (provisioning n i host).roleProgram woven →
            woven.Always (.script Bridge) (Warranted n)
              (fun results after => (∃ e ∈ after, e.Fails) →
                ∃ role failure, results role = .error failure) t :=
  ⟨fun turns => passBy_heeds turns n, fun _ _ _ managed connected founded sound _ weaves =>
    roles_woven_warranted managed connected founded sound weaves⟩

/-! ## A namespace whose service accounts are next -/

/-- What a pass over a namespace has heard when it comes to the service accounts. -/
def shopHeard : Transcript Bridge :=
  [.cluster .listIntegrations (.ok [acme]),
    ⟨.connect "[::1]" "t" false, (.ok () : Except RegistryError Unit)⟩,
    .registry (.getOrganization "acme_shop") (.ok { status := 200, body := none })]

theorem shop_woven_warranted :
    phase shop acme = .managed ∧ Connected acme shopHeard ∧
      (provisioning shop acme "[::1]").Founded shopHeard ∧ shopHeard.Sound ∧
        ∃ woven, Program.Weaves (provisioning shop acme "[::1]").roleProgram woven ∧
          woven.Always (.script Bridge) (Warranted shop)
            (fun results after => (∃ e ∈ after, e.Fails) →
              ∃ role failure, results role = .error failure) shopHeard := by
  have managed : phase shop acme = .managed := by decide
  have connected : Connected acme shopHeard :=
    ⟨[_], _, [_], rfl, ⟨[], _, [], rfl, trivial, [acme], rfl, rfl⟩, "t", rfl⟩
  have founded : (provisioning shop acme "[::1]").Founded shopHeard :=
    .inl ⟨[_, _], _, [], rfl, trivial, _, rfl, rfl⟩
  have sound : shopHeard.Sound := by
    refine Transcript.sound_cons.mpr ⟨Exchange.not_fails_cluster_ok _ _, ?_⟩
    refine Transcript.sound_cons.mpr ⟨?_, Transcript.sound_singleton.mpr ?_⟩
    · rintro ⟨e, ⟨⟩⟩
    · exact fun fails => (Exchange.fails_registry_ok _ _).mp fails (by decide)
  obtain ⟨woven, weaves⟩ := Program.exists_weaves roles.attach
    (provisioning shop acme "[::1]").roleProgram fun role absent =>
      absurd (List.mem_attach roles role) absent
  exact ⟨managed, connected, founded, sound, woven, weaves,
    (pass_warranted shop).2 acme "[::1]" shopHeard managed connected founded sound woven weaves⟩

end RegistryBridge.NamespacePass
