import RegistryBridge.Proofs.Admission.Ruling
import RegistryBridge.Proofs.Lifetime.Success
/-!
# The gate of a namespace, and what stands behind it

The webhook lets the builds of a namespace through once its builder pulls with the secret that the
integration gives it. Provisioning is what makes that so, and it links the builder last: when the gate
opens, the pull secret is in place, its robot is there, and the robot may write. Nothing that a pass
does afterwards takes any of this back, and a pass that succeeds leaves the gate open.

## Main definitions

* `Gate.Open`: the check of the webhook.
* `Gate.Backed`: what stands behind an open gate.
* `Gate.Reached`: the states that passes lead to, wherever they stop.

## Main results

* `Gate.reply_of_bridged`: an open gate is what lets a build through.
* `Gate.backed_of_proper`, `Gate.Open.keep`: what one question of a pass keeps.
* `Gate.agrees`
-/

namespace RegistryBridge.Gate

open Redirect (builder)

/-! ## The gate -/

/-- **The gate of a namespace is open**: its builder pulls with the secret that the integration gives
it. -/
def Open (ns : String) (spec : IntegrationSpec) (w : World) : Prop :=
  Redirect.Linked (w.cluster.serviceAccounts.get? (qualified ns builder)) spec

/-- **What stands behind an open gate**: the builder's robot, a prototype that lets it write, and the
pull secret with its token. -/
def Backed (ns : String) (spec : IntegrationSpec) (w : World) : Prop :=
  ∃ p : Provisioning, p.ns = ns ∧ p.spec = spec ∧ Registry.host spec.hostname = .ok p.host ∧
    p.Backed (builder, .write) w

variable {ns : String} {spec : IntegrationSpec} {w after : World}

/-- **An open gate is what lets a build through.** With a closed one it is told to wait for the
secret. -/
theorem reply_of_bridged {r : AdmissionRequest} {b : Build} {output : OutputReference}
    (h : Redirect.Bridged (.of World.answer w) r b output ns spec) :
    (Open ns spec w →
        Redirect.reply World.answer w r = Redirect.redirected r b spec ns output) ∧
      (¬ Open ns spec w → Redirect.reply World.answer w r =
        r.deny (Redirect.notLinked ns (spec.pullSecretName builder))) := by
  have found : (Redirect.Answers.of World.answer w).builderIn ns =
      .ok (w.cluster.serviceAccounts.get? (qualified ns builder)) := rfl
  refine ⟨Redirect.reply_of_linked h found, fun closed => ?_⟩
  rw [Redirect.reply_of_bridged h, found]
  exact if_neg fun pulls => closed (Redirect.any_pullsWith_iff.mp pulls)

/-! ## What stands behind it hangs on little -/

/-- What stands behind the gate is told by the namespace, the integration and the name of its
registry. -/
theorem backed_iff (p : Provisioning) (named : Registry.host p.spec.hostname = .ok p.host) :
    Backed p.ns p.spec w ↔ p.Backed (builder, .write) w := by
  refine ⟨?_, fun h => ⟨p, rfl, rfl, named, h⟩⟩
  rintro ⟨⟨object, ns, host, spec⟩, same_ns, same_spec, named', backed⟩
  have same_host : host = p.host := Except.ok.inj (named'.symm.trans named)
  dsimp only at same_ns same_spec
  subst same_ns same_spec same_host
  exact backed

theorem open_of_account_eq
    (same : after.cluster.serviceAccounts.get? (qualified ns builder) =
      w.cluster.serviceAccounts.get? (qualified ns builder)) :
    Open ns spec after ↔ Open ns spec w := by
  unfold Open
  rw [same]

/-- A builder that is linked opens the gate. -/
theorem open_of_hasLinks {p : Provisioning} (h : p.HasLinks builder w) : Open p.ns p.spec w := by
  obtain ⟨a, stored, pulls, -⟩ := h
  have found : w.cluster.serviceAccounts.get? (qualified p.ns builder) = some a := stored
  unfold Open
  rw [found]
  exact Redirect.any_pullsWith_iff.mp pulls

/-- The cells that the gate and what stands behind it hang on. -/
inductive Part (ns : String) (spec : IntegrationSpec) : World.Cell → Prop
  | integrations : Part ns spec .integrations
  | account : Part ns spec (.serviceAccount (qualified ns builder))
  | secret : Part ns spec (.secret (qualified ns (spec.pullSecretName builder)))
  | robot : Part ns spec (.robot (robotName (spec.organization ns) builder))
  | prototypes : Part ns spec (.prototypes (spec.organization ns))

/-- **Others touch none of these objects**, and leave the integrations as they are. -/
def Elsewhere (ns : String) (spec : IntegrationSpec) (w after : World) : Prop :=
  ∀ cell, Part ns spec cell → after.content cell = w.content cell

theorem Elsewhere.spares {p : Provisioning} (h : Elsewhere ns spec w after) (same_ns : p.ns = ns)
    (same_spec : p.spec = spec) : p.Spares builder w after := by
  subst same_ns same_spec
  refine ⟨fun cell owns => ?_, ?_⟩
  · cases owns with
    | robot => exact h _ .robot
    | secret => exact h _ .secret
    | serviceAccount => exact h _ .account
  · have same : after.registry.prototypesOf p.organization = w.registry.prototypesOf p.organization :=
      h _ .prototypes
    exact same ▸ List.prefix_rfl

/-- What spares the builder changes neither the gate nor what stands behind it. -/
theorem keep_of_spares (spares : ∀ p : Provisioning, p.ns = ns → p.spec = spec →
      Registry.host spec.hostname = .ok p.host → p.Spares builder w after)
    (backed : Backed ns spec w) : Backed ns spec after := by
  obtain ⟨p, same_ns, same_spec, named, h⟩ := backed
  exact ⟨p, same_ns, same_spec, named, (spares p same_ns same_spec named).backed (builder, .write) h⟩

/-! ## What one question keeps -/

/-- Of the roles, only the builder's is called by its name. -/
theorem eq_of_builder {role : String × Registry.Role} (mem : role ∈ roles)
    (named : role.1 = builder) : role = (builder, .write) := by
  revert role
  decide

section Question

variable {faults : Prop} {question : Question} {reply : question.Answer}

/-- **What stands behind the gate is there before the gate opens**, and is not taken away behind it:
for the questions about the builder. -/
theorem backed_of_due {p : Provisioning} (due : p.Due (builder, .write) question w)
    (allowed : (World.conduct faults).allows question w reply after)
    (kept : Open p.ns p.spec w → p.Backed (builder, .write) w)
    (opened : Open p.ns p.spec after) : p.Backed (builder, .write) after := by
  have same_account : question.cell? ≠ some (.serviceAccount (p.accountKey builder)) →
      Open p.ns p.spec w := fun elsewhere =>
    (open_of_account_eq (World.content_of_allows allowed elsewhere)).mp opened
  cases due with
  | getRobot | getPrototypes | getSecret | getServiceAccount =>
    obtain rfl := World.eq_of_quiet allowed rfl
    exact kept opened
  | createPrototype robot =>
    have spares : p.Spares builder w after := by
      refine .of_elsewhere allowed ?_
      rintro _ ⟨⟩ ⟨⟩
    exact spares.backed (builder, .write) (kept (same_account (by rintro ⟨⟩)))
  | createRobot absent =>
    -- No robot is made behind an open gate, since there is one.
    obtain ⟨robot, stored, -⟩ := kept (same_account (by rintro ⟨⟩))
    rw [show w.registry.robots.get? (p.robotKey builder) = _ from stored] at absent
    cases absent
  | applySecret stored granted =>
    rcases World.eq_or_honest_of_allows allowed with rfl | ⟨_, -, rfl⟩
    · exact kept opened
    · refine ⟨_, stored, granted, _, ?_, Secret.agrees_iff.mpr ⟨rfl, rfl⟩⟩
      rw [← p.key_wanted]
      exact Table.get?_insert_self _ _ _
  | linkServiceAccount backed stored lacks =>
    rcases World.eq_or_honest_of_allows allowed with rfl | ⟨_, -, rfl⟩
    · exact backed
    · exact backed

/-- An open gate is not shut by the questions about the builder. -/
theorem open_of_due {p : Provisioning} (due : p.Due (builder, .write) question w)
    (allowed : (World.conduct faults).allows question w reply after)
    (opened : Open p.ns p.spec w) : Open p.ns p.spec after := by
  have same_account : question.cell? ≠ some (.serviceAccount (p.accountKey builder)) →
      Open p.ns p.spec after := fun elsewhere =>
    (open_of_account_eq (World.content_of_allows allowed elsewhere)).mpr opened
  cases due with
  | getServiceAccount =>
    obtain rfl := World.eq_of_quiet allowed rfl
    exact opened
  | @linkServiceAccount a links _ backed stored lacks =>
    rcases World.eq_or_honest_of_allows allowed with rfl | ⟨_, -, rfl⟩
    · exact opened
    · -- The lists that are written have the secret.
      have found : w.cluster.serviceAccounts.get? (qualified p.ns builder) = some a := stored
      refine open_of_hasLinks ⟨a.withLinks links, ?_, ServiceAccount.linked_of_linksWith lacks⟩
      simp [ClusterStore.answer, ClusterStore.linked, Provisioning.accountKey, found]
  | getRobot | createRobot | getPrototypes | createPrototype | getSecret | applySecret =>
    exact same_account (by rintro ⟨⟩)

variable {n : Namespace} {i : Integration}

/-- **What stands behind the gate**, no question of a pass takes away, and none opens the gate before
it is there. -/
theorem backed_of_proper (proper : NamespacePass.Proper n i question w)
    (allowed : (World.conduct faults).allows question w reply after)
    (kept : Open n.metadata.displayName i.spec w → Backed n.metadata.displayName i.spec w)
    (opened : Open n.metadata.displayName i.spec after) :
    Backed n.metadata.displayName i.spec after := by
  rcases proper with beside | ⟨host, named, role, mem, due⟩
  · have spares : ∀ p : Provisioning, p.Spares builder w after := fun p =>
      Provisioning.spares_of_beside beside builder allowed
    have same := (spares (NamespacePass.provisioning n i "")).account_eq
    exact keep_of_spares (fun p _ _ _ => spares p) (kept ((open_of_account_eq same).mp opened))
  · refine (backed_iff (NamespacePass.provisioning n i host) named).mpr ?_
    have kept' := fun h => (backed_iff (NamespacePass.provisioning n i host) named).mp (kept h)
    by_cases mine : role.1 = builder
    · obtain rfl := eq_of_builder mem mine
      exact backed_of_due due allowed kept' opened
    · have spares := due.spares allowed mine
      exact spares.backed (builder, .write)
        (kept' ((open_of_account_eq spares.account_eq).mp opened))

/-- **An open gate stays open.** -/
theorem Open.keep (proper : NamespacePass.Proper n i question w)
    (allowed : (World.conduct faults).allows question w reply after)
    (opened : Open n.metadata.displayName i.spec w) :
    Open n.metadata.displayName i.spec after := by
  rcases proper with beside | ⟨host, named, role, mem, due⟩
  · have spares : (NamespacePass.provisioning n i "").Spares builder w after :=
      Provisioning.spares_of_beside beside builder allowed
    exact (open_of_account_eq spares.account_eq).mpr opened
  · by_cases mine : role.1 = builder
    · obtain rfl := eq_of_builder mem mine
      exact open_of_due due allowed opened
    · exact (open_of_account_eq (due.spares allowed mine).account_eq).mpr opened

end Question

/-! ## Runs of passes -/

/-- **The states that passes lead to**, from some state on. A pass may stop anywhere, and between two
passes others may have edited whatever else there is. -/
inductive Reached (ns : String) (i : Integration) (w : World) : World → Prop
  | start : Reached ns i w w
  | others {now later : World} (earlier : Reached ns i w now)
    (elsewhere : Elsewhere ns i.spec now later) : Reached ns i w later
  | pass {turns : Turns} {n : Namespace} {now later : World} (earlier : Reached ns i w now)
    (named : n.metadata.displayName = ns) (managed : NamespacePass.phase n i = .managed)
    (visited : (NamespacePass.passBy turns n).Visits (World.conduct True) now later) :
    Reached ns i w later

section Runs

variable {i : Integration} {now : World}

/-- What every pass asks, without what is heard. -/
theorem passBy_proper {turns : Turns} {n : Namespace} (only : w.cluster.integrations = [i])
    (managed : NamespacePass.phase n i = .managed) :
    (NamespacePass.passBy turns n).Always (World.conduct True) (NamespacePass.Proper n i)
      (fun result after => ∀ action, result = .ok action →
        Open n.metadata.displayName i.spec after) w := by
  refine Program.Always.unrecorded (t := []) ?_
  refine (NamespacePass.passBy_always turns only managed []).mono (fun _ _ => id) ?_
  intro result s reached action succeeds
  obtain ⟨-, host, -, provisioned⟩ := reached action succeeds
  obtain ⟨robot, -, -, -, -, linked⟩ := provisioned.roles (builder, .write) (by decide)
  exact open_of_hasLinks (p := NamespacePass.provisioning n i host) linked

/-- **What the questions of passes keep**, and the edits of others, holds in every state that passes
lead to. -/
theorem Reached.keep (kept : World → Prop) (h : Reached ns i w now)
    (only : w.cluster.integrations = [i])
    (edits : ∀ w after, Elsewhere ns i.spec w after → kept w → kept after)
    (asks : ∀ n question w reply after, n.metadata.displayName = ns →
      NamespacePass.Proper n i question w → (World.conduct True).allows question w reply after →
        kept w → kept after)
    (start : kept w) : now.cluster.integrations = [i] ∧ kept now := by
  induction h with
  | start => exact ⟨only, start⟩
  | others _ elsewhere ih =>
    have same := elsewhere _ .integrations
    exact ⟨same.trans ih.1, edits _ _ elsewhere ih.2⟩
  | @pass turns n now later _ named managed visited ih =>
    refine (passBy_proper ih.1 managed).of_visits
      (fun w => w.cluster.integrations = [i] ∧ kept w) visited ?_ ih
    rintro question s reply after proper allowed ⟨single, held⟩
    exact ⟨(World.integrations_of_allows allowed).trans single,
      asks n question s reply after named proper allowed held⟩

/-- **Behind an open gate everything is in place**, in every state that passes lead to. -/
theorem Reached.backed (h : Reached ns i w now) (only : w.cluster.integrations = [i])
    (start : Open ns i.spec w → Backed ns i.spec w) (opened : Open ns i.spec now) :
    Backed ns i.spec now := by
  refine (h.keep (fun w => Open ns i.spec w → Backed ns i.spec w) only ?_ ?_ start).2 opened
  · intro w after elsewhere kept opened
    have before := (open_of_account_eq (elsewhere _ .account)).mp opened
    exact keep_of_spares (fun p same_ns same_spec _ => elsewhere.spares same_ns same_spec)
      (kept before)
  · rintro n question w reply after rfl proper allowed kept opened
    exact backed_of_proper proper allowed kept opened

/-- **An open gate stays open**, in every state that passes lead to. -/
theorem Reached.open (h : Reached ns i w now) (only : w.cluster.integrations = [i])
    (start : Open ns i.spec w) : Open ns i.spec now := by
  refine (h.keep (Open ns i.spec) only ?_ ?_ start).2
  · intro w after elsewhere opened
    exact (open_of_account_eq (elsewhere _ .account)).mpr opened
  · rintro n question w reply after rfl proper allowed opened
    exact opened.keep proper allowed

/-- **The gate and provisioning agree.** Let passes run over a managed namespace under one
integration, each in its own way of taking turns, whatever fails and wherever they stop, with nobody
else touching the builder, its robot, its pull secret or the prototypes. If the gate is closed at
first, then whenever it is open, the builder's pull secret is in place with its robot's token, the
robot is there, and a prototype lets it write. And once a pass has succeeded the gate is open for good,
so that no build of the namespace is ever told to wait for the secret. -/
theorem agrees (only : w.cluster.integrations = [i]) (closed : ¬ Open ns i.spec w) :
    (∀ now, Reached ns i w now → Open ns i.spec now → Backed ns i.spec now) ∧
      ∀ now, Reached ns i w now → ∀ turns n action after, n.metadata.displayName = ns →
        NamespacePass.phase n i = .managed →
          (NamespacePass.passBy turns n).Ends (World.conduct True) now (.ok action) after →
            ∀ later, Reached ns i after later → Open ns i.spec later ∧
              ∀ r b output, Redirect.Bridged (.of World.answer later) r b output ns i.spec →
                Redirect.reply World.answer later r =
                  Redirect.redirected r b i.spec ns output := by
  refine ⟨fun now reached => reached.backed only fun opened => absurd opened closed, ?_⟩
  rintro now reached turns n action after rfl managed run later onward
  have single := fun {now} (h : Reached n.metadata.displayName i w now) =>
    (h.keep (fun _ => True) only (fun _ _ _ => id) (fun _ _ _ _ _ _ _ _ => id) trivial).1
  have opened := (passBy_proper (single reached) managed).of_ends run action rfl
  have still := onward.open (single (.pass reached rfl managed run.visits)) opened
  exact ⟨still, fun r b output bridged => (reply_of_bridged bridged).1 still⟩

end Runs

/-! ## A namespace whose builder is not linked yet -/

/-- The namespace that was provisioned in part, with service accounts that nothing is linked to. -/
def unlinked : World :=
  { NamespacePass.begun with
    cluster := { NamespacePass.begun.cluster with
      serviceAccounts := Table.ofList
        [NamespacePass.shopAccount "builder" [], NamespacePass.shopAccount "default" [],
          NamespacePass.shopAccount "deployer" []] } }

theorem ready_unlinked : NamespacePass.Ready NamespacePass.shop NamespacePass.acme "[::1]" unlinked where
  only := rfl
  named := by rfl
  credentials := ⟨_, ⟨rfl, _, "t", rfl, by rfl⟩, by decide +kernel⟩
  alive := rfl
  held := by decide
  allowed := by decide
  accounts := by
    unfold Provisioning.HasAccounts
    decide +kernel

theorem closed_unlinked : ¬ Open "shop" NamespacePass.acme.spec unlinked := by
  intro opened
  have pulls := Redirect.any_pullsWith_iff.mpr opened
  exact absurd pulls (by decide +kernel)

/-- The first pass that succeeds opens the gate, with everything in place behind it. -/
theorem shop_agrees :
    unlinked.cluster.integrations = [NamespacePass.acme] ∧
      ¬ Open "shop" NamespacePass.acme.spec unlinked ∧
      ∃ after, (NamespacePass.passBy .inOrder NamespacePass.shop).Ends (World.conduct True) unlinked
          (.ok (.requeue 600000)) after ∧
        Open "shop" NamespacePass.acme.spec after ∧ Backed "shop" NamespacePass.acme.spec after := by
  have managed : NamespacePass.phase NamespacePass.shop NamespacePass.acme = .managed := by decide
  obtain ⟨result, after, run⟩ := Program.exists_ends (World.conduct False)
    (NamespacePass.passBy .inOrder NamespacePass.shop) unlinked
  obtain ⟨rfl, -⟩ := (ready_unlinked.passBy_settles .inOrder).of_ends run
  have widened : (NamespacePass.passBy .inOrder NamespacePass.shop).Ends (World.conduct True)
      unlinked (.ok (.requeue 600000)) after := run.widen fun _ _ _ _ => World.allows_with_faults
  obtain ⟨backed, opens⟩ := agrees (i := NamespacePass.acme) (w := unlinked) rfl closed_unlinked
  have opened := (opens unlinked .start .inOrder _ _ after rfl managed widened after .start).1
  exact ⟨rfl, closed_unlinked, after, widened, opened,
    backed after (.pass .start rfl managed widened.visits) opened⟩

end RegistryBridge.Gate
