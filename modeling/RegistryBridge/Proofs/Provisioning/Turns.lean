import RegistryBridge.Pass.NamespacePass
import RegistryBridge.Proofs.Pass.Only
import RegistryBridge.Proofs.Program.Turns
import RegistryBridge.Proofs.Provisioning.Warrant
/-!
# Service accounts that take turns

The service accounts of a namespace do not wait for one another: their calls may come in any order
that keeps the order of each. One after another is only one of these ways. Whichever it is, all of
them are looked after, and of several failures the first counts, in the order of the roles.

## Main definitions

* `Turns`: a way for service accounts to take turns; `Turns.inOrder`: one after another.
* `Provisioning.fanOut`, `Provisioning.stepsBy`, `NamespacePass.passBy`: provisioning, and a pass, in
  which service accounts take turns.

## Main results

* `NamespacePass.passBy_inOrder`: the pass is the one in which they come one after another.
* `Provisioning.fanOut_always`: what all service accounts have when the fan-out succeeds.
* `Provisioning.fanOut_heeds`: the fan-out succeeds only when nothing has failed.
-/

namespace RegistryBridge

namespace Step

/-- **The failure that counts** of several: the first one. -/
def firstFailure : List (Except Failure Unit) → Except Failure Unit
  | [] => .ok ()
  | .ok () :: rest => firstFailure rest
  | .error failure :: _ => .error failure

theorem firstFailure_eq_ok_iff {results : List (Except Failure Unit)} :
    firstFailure results = .ok () ↔ ∀ result ∈ results, result = .ok () := by
  induction results with
  | nil => simp [firstFailure]
  | cons result rest ih =>
    cases result with
    | ok value => simp [firstFailure, ih]
    | error failure => simp [firstFailure]

/-- The failure that counts is one of them. -/
theorem mem_of_firstFailure {results : List (Except Failure Unit)} {failure : Failure}
    (counted : firstFailure results = .error failure) : .error failure ∈ results := by
  induction results with
  | nil => cases counted
  | cons result rest ih =>
    cases result with
    | ok value => exact List.mem_cons_of_mem _ (ih counted)
    | error first =>
      obtain rfl := Except.error.inj counted
      exact List.mem_cons_self

/-- Steps that are all taken are programs one after another, of which the first failure counts. -/
theorem all_map_eq_inTurn {ι : Type} [DecidableEq ι] {l : List ι} (nodup : l.Nodup)
    (step : ι → Step Unit) (values : ι → Except Failure Unit) :
    (all (l.map step)).run =
      (Program.inTurn (I := Bridge) (fun i => (step i).run) l values).bind fun results =>
        .done (firstFailure (l.map results)) := by
  induction l with
  | nil => rfl
  | cons i rest ih =>
    obtain ⟨absent, nodup⟩ := List.nodup_cons.mp nodup
    simp only [Program.inTurn, Program.inTurn_update_value absent, Program.bind_assoc,
      Program.done_bind]
    refine congrArg (Program.bind (step i).run) (funext fun result => ?_)
    rw [ih nodup, Program.bind_assoc]
    refine congrArg _ (funext fun results => ?_)
    -- The later ones have the results that they have without the first.
    have later : rest.map (Function.update results i result) = rest.map results := by
      refine List.map_congr_left fun j mem => Function.update_of_ne ?_ _ _
      rintro rfl
      exact absent mem
    cases result with
    | ok value => simp [firstFailure, later]
    | error failure => simp [firstFailure]

end Step

/-! ## Ways to take turns -/

theorem nodup_roles : roles.attach.Nodup := by decide

/-- Different roles are those of different service accounts. -/
theorem account_ne {i j : { role // role ∈ roles }} (hne : i ≠ j) : i.val.1 ≠ j.val.1 := by
  have distinct : ∀ i ∈ roles, ∀ j ∈ roles, i.1 = j.1 → i = j := by decide
  exact fun same => hne (Subtype.ext (distinct i.1 i.2 j.1 j.2 same))

/-- **A way for service accounts to take turns**, in whatever namespace they are provided for. -/
structure Turns where
  woven : Provisioning → Program Bridge ({ role // role ∈ roles } → Except Failure Unit)
  weaves : ∀ p, Program.Weaves p.roleProgram (woven p)

/-- **One after another**, in the order of the roles. -/
def Turns.inOrder : Turns where
  woven p := Program.inTurn p.roleProgram roles.attach fun _ => .ok ()
  weaves _ := Program.weaves_inTurn nodup_roles fun role absent =>
    absurd (List.mem_attach roles role) absent

namespace Provisioning

/-- **Everything for all service accounts**, taking turns. All of it is done, whichever of them
fail. -/
def fanOut (woven : Program Bridge ({ role // role ∈ roles } → Except Failure Unit)) : Step Unit :=
  ExceptT.mk (Program.bind woven fun results =>
    .done (Step.firstFailure (roles.attach.map results)))

/-- **Everything that a bridged namespace has in the registry**, its service accounts taking turns. -/
def stepsBy (turns : Turns) (p : Provisioning) : Step Unit := do
  p.organizationStep
  fanOut (turns.woven p)
  p.repositories

theorem fanOut_inOrder (p : Provisioning) :
    fanOut (Turns.inOrder.woven p) =
      Step.all (roles.map fun (account, role) => p.roleStep account role) := by
  have attached : roles.map (fun (account, role) => p.roleStep account role) =
      roles.attach.map fun role => p.roleStep role.val.1 role.val.2 := by
    simp only [List.map_attach_eq_pmap, List.pmap_eq_map]
  rw [attached]
  exact (Step.all_map_eq_inTurn nodup_roles (fun role => p.roleStep role.val.1 role.val.2)
    fun _ => .ok ()).symm

theorem stepsBy_inOrder (p : Provisioning) : stepsBy .inOrder p = p.steps := by
  simp only [stepsBy, steps, fanOut_inOrder]

section FanOut

variable {p : Provisioning}
  {woven : Program Bridge ({ role // role ∈ roles } → Except Failure Unit)}

/-- **What all service accounts have when the fan-out succeeds**; it is lost as one of them is. -/
theorem fanOut_always {σ : Type} {c : Conduct Bridge σ} {asked : Question → σ → Prop}
    {ends lost : { role // role ∈ roles } → σ → Prop} {state : σ}
    (h : woven.Always c asked (fun results s => ∀ role,
      (∀ value, results role = .ok value → ends role s) ∧
        ∀ failure, results role = .error failure → lost role s) state) :
    (fanOut woven).Always c asked (fun _ s => ∀ role, ends role s)
      (fun _ s => ∃ role, lost role s) state := by
  refine (Program.always_bind woven _ state).mpr (h.mono (fun _ _ => id) fun results s each => ?_)
  refine (Program.always_done _ _).mpr ?_
  cases counted : Step.firstFailure (roles.attach.map results) with
  | error failure =>
    obtain ⟨role, -, failed⟩ := List.mem_map.mp (Step.mem_of_firstFailure counted)
    exact ⟨role, (each role).2 failure failed⟩
  | ok value =>
    intro role
    refine (each role).1 () (Step.firstFailure_eq_ok_iff.mp counted _ ?_)
    exact List.mem_map_of_mem (List.mem_attach roles role)

theorem fanOut_only {kind : Question → Prop} (weaves : Program.Weaves p.roleProgram woven)
    (each : ∀ role ∈ roles, (p.roleStep role.1 role.2).Only kind) : (fanOut woven).Only kind :=
  Program.Only.bind (weaves.only fun role => each role.val role.property) fun _ => trivial

/-- **The fan-out succeeds only when nothing has failed**, and asks only what is warranted. -/
theorem fanOut_heeds {t : Transcript Bridge} (weaves : Program.Weaves p.roleProgram woven)
    (founded : p.Founded t) (sound : t.Sound) :
    (fanOut woven).Heeds p.Warranted (fun _ => p.Founded) t := by
  have run := (roles_woven weaves founded sound).keep
    (fun _ _ _ _ allowed founded => allowed ▸ founded_lasting.grow founded _) founded
  refine (Program.always_bind woven _ t).mpr (run.mono ?_ fun results after ended => ?_)
  · rintro question t ⟨⟨account, role, mem, warranted⟩, -⟩
    exact .role mem warranted
  · refine (Program.always_done _ _).mpr ?_
    cases counted : Step.firstFailure (roles.attach.map results) with
    | error failure => trivial
    | ok value =>
      refine ⟨ended.2, fun _ e mem fails => ?_⟩
      -- Whoever was told of the failure ends with one, and then that one counts.
      obtain ⟨role, failure, failed⟩ := ended.1 ⟨e, mem, fails⟩
      have fine := Step.firstFailure_eq_ok_iff.mp counted (results role)
        (List.mem_map_of_mem (List.mem_attach roles role))
      rw [failed] at fine
      cases fine

theorem stepsBy_warranted (turns : Turns) {t : Transcript Bridge} (sound : t.Sound) :
    (stepsBy turns p).Heeds p.Warranted (fun _ _ => True) t := by
  refine .bind (organizationStep_warranted.sound sound) fun _ _ ⟨founded, sound⟩ => ?_
  exact .bind ((fanOut_heeds (turns.weaves p) founded sound).sound sound)
    fun _ _ ⟨founded, sound⟩ => repositories_warranted founded sound

end FanOut

end Provisioning

/-! ## A whole pass -/

namespace NamespacePass

/-- What is known when a namespace is provisioned. -/
def provisioning (n : Namespace) (i : Integration) (host : String) : Provisioning :=
  { object := Resource.reference n, ns := n.metadata.displayName, host, spec := i.spec }

/-- Provisions a namespace, its service accounts taking turns. -/
def provisionBy (turns : Turns) (object : ObjectReference) (spec : IntegrationSpec)
    (name : String) : Step Action := do
  Pass.connect object spec
  match Registry.host spec.hostname with
  | .error e =>
    Step.fail ((Failure.ofError object "Failed to parse Quay hostname" e).detail "Hostname"
      spec.hostname)
  | .ok host =>
    Provisioning.stepsBy turns { object, ns := name, host, spec }
    return .requeue (Settings.resyncSeconds * 1000)

/-- What is done in a phase, service accounts taking turns. -/
def inPhaseBy (turns : Turns) (object : ObjectReference) (spec : IntegrationSpec) (name : String) :
    NamespacePhase → Step Action
  | .managed => provisionBy turns object spec name
  | phase => inPhase object spec name phase

/-- A pass over a namespace, its failure not yet reported, service accounts taking turns. -/
def stepBy (turns : Turns) (n : Namespace) : Step Action := do
  let name := n.metadata.displayName
  let object := Resource.reference n
  let integration ← Pass.integration object
  inPhaseBy turns object integration.spec name (.of n (integration.spec.allows name))

/-- **A pass over a namespace**, its service accounts taking turns. -/
def passBy (turns : Turns) (n : Namespace) : Pass :=
  Pass.reporting (stepBy turns n)

theorem provisionBy_inOrder (object : ObjectReference) (spec : IntegrationSpec) (name : String) :
    provisionBy .inOrder object spec name = provision object spec name := by
  unfold provisionBy provision
  refine congrArg (Bind.bind (Pass.connect object spec)) (funext fun _ => ?_)
  cases Registry.host spec.hostname with
  | error e => rfl
  | ok host =>
    dsimp only
    rw [Provisioning.stepsBy_inOrder]

theorem inPhaseBy_inOrder (object : ObjectReference) (spec : IntegrationSpec) (name : String)
    (phase : NamespacePhase) :
    inPhaseBy .inOrder object spec name phase = inPhase object spec name phase := by
  cases phase with
  | managed => exact provisionBy_inOrder object spec name
  | unmanaged | initializing | gone | pending | terminating => rfl

/-- **The pass is the one in which service accounts come one after another.** -/
theorem passBy_inOrder (n : Namespace) : passBy .inOrder n = pass n := by
  simp only [passBy, pass, stepBy, step, inPhaseBy_inOrder]

end NamespacePass

end RegistryBridge
