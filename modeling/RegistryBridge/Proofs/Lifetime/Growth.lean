import RegistryBridge.Proofs.Lifetime.Reach
import RegistryBridge.Proofs.Provisioning.Convergence
/-!
# Provisioning takes nothing away

Whatever the registry answers and whichever calls fail, a pass over a managed namespace takes nothing
away, in whatever way service accounts take turns. So it is after every question, not only at the end.

## Main definitions

* `World.scripted`: a world whose registry answers as it likes.
* `NamespacePass.Gentle`: the questions that take nothing away.

## Main results

* `NamespacePass.passBy_modest`: what such a pass asks.
* `NamespacePass.passBy_grows`
-/

namespace RegistryBridge

/-! ## A registry that answers as it likes -/

/-- **A world whose registry answers as it likes.** Any call may fail, before it has taken effect or
after it; what the cluster answers is honest if the call does not fail. -/
def World.scripted : Conduct Bridge World where
  allows question w reply after :=
    (World.conduct True).allows question w reply after ∨
      (∃ call, question = .registry call) ∧ (after = w ∨ ∃ honest, w.Honest question honest after)
  answers question w := ⟨_, _, .inl (.inl (w.honest_answer question))⟩

/-- The state moves on as it does with an honest registry whose calls may fail. -/
theorem World.exists_allows_of_scripted {question : Question} {reply : question.Answer}
    {w after : World} (allowed : World.scripted.allows question w reply after) :
    ∃ reply, (World.conduct True).allows question w reply after := by
  rcases allowed with allowed | ⟨⟨call, rfl⟩, left⟩
  · exact ⟨reply, allowed⟩
  · have fails : (Question.registry call).Fails
        (.error (.transport "" "") : Except RegistryError (Registry.Response call.Value)) :=
      .inl ⟨_, rfl⟩
    exact ⟨_, .inr ⟨trivial, fails, left⟩⟩

/-- The cluster answers honestly or with an error. -/
theorem World.allows_cluster_of_scripted {call : ClusterCall}
    {reply : Except OperationError call.Value} {w after : World}
    (allowed : World.scripted.allows (.cluster call) w reply after) :
    (World.conduct True).allows (.cluster call) w reply after := by
  rcases allowed with allowed | ⟨⟨_, ⟨⟩⟩, -⟩
  exact allowed

namespace Provisioning

variable {p : Provisioning} {w after : World}

/-- No question that is asked for one service account changes another one. -/
theorem Mild.account_eq {role : String × Registry.Role} {other : String} (hne : role.1 ≠ other)
    {faults : Prop} {question : Question} {reply : question.Answer} (h : p.Mild role question w)
    (allowed : (World.conduct faults).allows question w reply after) :
    after.cluster.serviceAccounts.get? (p.accountKey other) =
      w.cluster.serviceAccounts.get? (p.accountKey other) := by
  have elsewhere : question.cell? ≠ some (.serviceAccount (p.accountKey other)) →
      after.cluster.serviceAccounts.get? (p.accountKey other) =
        w.cluster.serviceAccounts.get? (p.accountKey other) :=
    World.content_of_allows allowed
  cases h with
  | quiet quiet =>
    obtain rfl := World.eq_of_quiet allowed quiet
    rfl
  | createRobot => exact elsewhere nofun
  | createPrototype => exact elsewhere nofun
  | applySecret => exact elsewhere nofun
  | linkServiceAccount =>
    refine elsewhere fun here => hne (p.accountKey_injective ?_)
    exact World.Cell.serviceAccount.inj (Option.some.inj here)

/-! ## One service account among others -/

/-- While others have their turns, a service account stays as it is. -/
def SameAccount (p : Provisioning) (account : String) (w after : World) : Prop :=
  after.cluster.serviceAccounts.get? (p.accountKey account) =
    w.cluster.serviceAccounts.get? (p.accountKey account)

section Role

variable {role : String × Registry.Role}

/-- What is asked for a service account may be asked while others have their turns. -/
theorem Mild.later {question : Question} (same : p.SameAccount role.1 w after)
    (h : p.Mild role question w) : p.Mild role question after := by
  cases h with
  | quiet quiet => exact .quiet quiet after
  | createRobot => exact .createRobot after
  | createPrototype robot => exact .createPrototype robot after
  | applySecret user token => exact .applySecret user token after
  | linkServiceAccount stored lacks => exact .linkServiceAccount (same.trans stored) lacks

theorem robotStep_mild : (p.robotStep role.1).Only fun question => ∀ w, p.Mild role question w := by
  refine .bind (.registry (.quiet rfl)) fun found => .ite (.of _) (.ite ?_ (.fail _))
  exact .bind (.registry .createRobot) fun made => .ite (.of _) (.fail _)

theorem prototypeStep_mild (robot : String) :
    (p.prototypeStep robot role.2).Only fun question => ∀ w, p.Mild role question w := by
  refine .bind (.registry (.quiet rfl)) fun found => .ite (.fail _) (.ite (.pure _) ?_)
  exact .bind (.registry (.createPrototype robot)) fun made => .ite (.fail _) (.pure _)

theorem pullSecretStep_mild (robot : Registry.Robot) :
    (p.pullSecretStep role.1 robot).Only fun question => ∀ w, p.Mild role question w :=
  .bind (.cluster (.quiet rfl)) fun _ => .ite (.pure _) (.cluster (.applySecret _ _))

/-- **A service account is linked with lists that are made from what it has**, since nobody else
writes it meanwhile. -/
theorem linkStep_mild :
    (p.linkStep role.1).Always (World.scripted.disturbed (p.SameAccount role.1)) (p.Mild role)
      (fun _ _ => True) (fun _ _ => True) w := by
  refine (Step.always_bind _ _).mpr ((Step.always_cluster _ _).mpr ⟨.quiet rfl w, ?_⟩)
  rintro reply after ⟨middle, -, allowed⟩
  rcases World.allows_cluster_of_scripted allowed with ⟨rfl, rfl⟩ | ⟨-, ⟨e, rfl⟩, -⟩
  · cases found : middle.cluster.serviceAccounts.get? (qualified p.ns role.1) with
    | none =>
      simp only [ClusterStore.answer, found]
      trivial
    | some a =>
      simp only [ClusterStore.answer, found]
      cases lacks : ServiceAccount.linksWith a (p.spec.pullSecretName role.1) with
      | none => trivial
      | some links =>
        refine (Step.always_cluster _ _).mpr ⟨.linkServiceAccount found lacks, ?_⟩
        rintro (e | value) - -
        · trivial
        · trivial
  · trivial

theorem roleStep_mild :
    (p.roleStep role.1 role.2).Always (World.scripted.disturbed (p.SameAccount role.1))
      (p.Mild role) (fun _ _ => True) (fun _ _ => True) w := by
  refine (Step.always_bind _ _).mpr
    ((robotStep_mild.asks w).mono (fun _ _ h => h _) ?_ fun _ _ => id)
  intro robot w _
  refine (Step.always_bind _ _).mpr
    (((prototypeStep_mild robot.name).asks w).mono (fun _ _ h => h _) ?_ fun _ _ => id)
  intro _ w _
  refine (Step.always_bind _ _).mpr
    (((pullSecretStep_mild robot).asks w).mono (fun _ _ h => h _) ?_ fun _ _ => id)
  exact fun _ _ _ => linkStep_mild

end Role

/-- **All service accounts take nothing away**, in whatever way they take turns. -/
theorem fanOut_modest {woven : Program Bridge ({ role // role ∈ roles } → Except Failure Unit)}
    (weaves : Program.Weaves p.roleProgram woven) :
    (fanOut woven).Always World.scripted p.Modest (fun _ _ => True) (fun _ _ => True) w := by
  have run : woven.Always World.scripted (fun question s =>
      ∃ role : { role // role ∈ roles }, p.Mild role.val question s)
      (fun _ _ => ∀ _ : { role // role ∈ roles }, True) w :=
    weaves.always_disturbed (fun role => p.SameAccount role.val.1) (fun role => p.Mild role.val)
      (fun _ _ _ => True) ?spares (fun role _ _ _ same h => h.later same) (fun _ _ _ _ _ => id)
      fun role => ?own
  case spares =>
    -- An account may only be linked with what it has, and the others leave that alone.
    intro i j hne question w reply after mild allowed
    obtain ⟨_, allowed⟩ := World.exists_allows_of_scripted allowed
    exact mild.account_eq (account_ne hne) allowed
  case own =>
    refine Program.Always.mono roleStep_mild (fun _ _ => id) ?_
    exact fun _ _ _ => trivial
  refine (Program.always_bind woven _ w).mpr (run.mono ?_ fun results s _ => ?_)
  · exact fun question s ⟨role, mild⟩ => .inr ⟨role.val, role.property, mild⟩
  · refine (Program.always_done _ _).mpr ?_
    cases Step.firstFailure (roles.attach.map results) <;> trivial

/-- **Provisioning asks only what takes nothing away.** -/
theorem stepsBy_modest (turns : Turns) :
    (stepsBy turns p).Always World.scripted p.Modest (fun _ _ => True) (fun _ _ => True) w := by
  refine (Step.always_bind _ _).mpr
    ((organizationStep_beside.asks w).mono (fun _ _ => .inl) ?_ fun _ _ => id)
  intro _ w _
  refine (Step.always_bind _ _).mpr
    ((fanOut_modest (turns.weaves p)).mono (fun _ _ => id) ?_ fun _ _ => id)
  exact fun _ w _ =>
    (repositories_beside.asks w).mono (fun _ _ => .inl) (fun _ _ => id) fun _ _ => id

end Provisioning

namespace NamespacePass

variable {n : Namespace} {i : Integration} {w : World}

/-- **The questions that take nothing away**: no organization is deleted, and in the cluster nothing
is written but the pull secrets of the platform's service accounts, as a whole, and these accounts. In
particular no finalizer is let go. -/
def Gentle (n : Namespace) (i : Integration) : Question → Prop
  | .cluster (.applySecret secret) => ∃ role ∈ roles, ∃ host user token,
    Registry.host i.spec.hostname = .ok host ∧ secret =
      PullSecret.secret (i.spec.pullSecretName role.1) n.metadata.displayName host user token
  | .cluster (.linkServiceAccount ns account _) =>
    ns = n.metadata.displayName ∧ ∃ role ∈ roles, account = role.1
  | .cluster call => call.isWrite = false
  | .registry (.deleteOrganization _) => False
  | .registry _ | .connect .. | .publish _ => True

theorem gentle_of_quiet {question : Question} (quiet : question.isQuiet = true) :
    Gentle n i question := by
  cases question with
  | cluster call =>
    have reads : call.isWrite = false := by simpa [Question.isQuiet] using quiet
    cases call with
    | applySecret | linkServiceAccount => cases reads
    | _ => exact reads
  | registry call =>
    cases call with
    | deleteOrganization => cases quiet
    | _ => trivial
  | connect | publish => trivial

theorem Modest.gentle {question : Question} (h : Modest n i question w) : Gentle n i question := by
  have besides : question.Beside → Gentle n i question := by
    rintro (quiet | _ | _ | _)
    · exact gentle_of_quiet quiet
    all_goals trivial
  rcases h with beside | ⟨host, named, beside | ⟨role, mem, mild⟩⟩
  · exact besides beside
  · exact besides beside
  · cases mild with
    | quiet quiet => exact gentle_of_quiet quiet
    | createRobot | createPrototype => trivial
    | applySecret user token => exact ⟨role, mem, host, user, token, named, rfl⟩
    | linkServiceAccount => exact ⟨rfl, role, mem, rfl⟩

/-! ## A whole pass -/

theorem provisionBy_modest (turns : Turns) :
    (provisionBy turns (Resource.reference n) i.spec n.metadata.displayName).Always World.scripted
      (Modest n i) (fun _ _ => True) (fun _ _ => True) w := by
  refine (Step.always_bind _ _).mpr ((Pass.connect_only.asks w).mono
    (fun _ _ first => .inl (.of_opening first)) ?_ fun _ _ => id)
  rintro _ w -
  cases named : Registry.host i.spec.hostname with
  | error e => trivial
  | ok host =>
    have provisions := Provisioning.stepsBy_modest (p := provisioning n i host) (w := w) turns
    exact (Step.always_bind _ _).mpr
      (provisions.mono (fun _ _ modest => .inr ⟨host, named, modest⟩) (fun _ _ => id) fun _ _ => id)

/-- **What a pass over a managed namespace asks**, whatever the registry answers and whichever calls
fail. -/
theorem passBy_modest (turns : Turns) (counted : w.cluster.integrations = [i])
    (managed : phase n i = .managed) :
    (passBy turns n).Always World.scripted (Modest n i) (fun _ _ => True) w := by
  have run : (stepBy turns n).Always World.scripted (Modest n i) (fun _ _ => True) (fun _ _ => True)
      w := by
    refine (Step.always_bind _ _).mpr ?_
    refine (Step.always_bind _ _).mpr ((Step.always_cluster _ _).mpr ⟨.inl (.quiet rfl), ?_⟩)
    intro reply after allowed
    rcases World.allows_cluster_of_scripted allowed with ⟨rfl, rfl⟩ | ⟨-, ⟨e, rfl⟩, -⟩
    · simp only [ClusterStore.answer, counted]
      have provisions := provisionBy_modest (n := n) (i := i) (w := w) turns
      show (inPhaseBy turns (Resource.reference n) i.spec n.metadata.displayName (phase n i)).Always
        World.scripted (Modest n i) (fun _ _ => True) (fun _ _ => True) w
      rw [managed]
      exact provisions
    · trivial
  refine Pass.always_reporting (run.mono (fun _ _ => id) (fun _ _ => id) fun failure s _ => ?_)
  exact ⟨.inl (.tell _), fun _ _ _ => trivial⟩

/-- **A pass over a managed namespace takes nothing away**, whatever the registry answers, whichever
calls fail, and in whatever way service accounts take turns. Before every question that it asks, and
when it ends, the world has only grown. -/
theorem passBy_grows (turns : Turns) (counted : w.cluster.integrations = [i])
    (managed : phase n i = .managed) :
    (passBy turns n).Always World.scripted (fun question s => Gentle n i question ∧ Grown n i w s)
      (fun _ s => Grown n i w s) w := by
  -- What a failing call leaves is what an honest one leaves, or nothing new.
  have keeps : ∀ question s reply after, Modest n i question s →
      World.scripted.allows question s reply after → Grows n i w s → Grows n i w after := by
    intro question s reply after modest allowed grown
    obtain ⟨reply, allowed⟩ := World.exists_allows_of_scripted allowed
    exact grown.trans (modest.grows allowed)
  refine (Program.Always.keeping (passBy_modest turns counted managed) keeps (.refl w)).mono ?_ ?_
  · exact fun _ _ h => ⟨h.1.gentle, h.2.grown⟩
  · exact fun _ _ h => h.2.grown

/-- The namespace that was provisioned in part has all it needs at the end, and has lost nothing. -/
theorem shop_grows :
    begun.cluster.integrations = [acme] ∧ phase shop acme = .managed ∧
      ∃ result after, (passBy .inOrder shop).Ends World.scripted begun result after ∧
        (provisioning shop acme "[::1]").Settled after ∧ Grown shop acme begun after := by
  have managed : phase shop acme = .managed := by decide
  obtain ⟨result, after, run⟩ :=
    Program.exists_ends (World.conduct False) (passBy .inOrder shop) begun
  obtain ⟨-, settled, -⟩ := (ready_begun.passBy_settles .inOrder).of_ends run
  have widened : (passBy .inOrder shop).Ends World.scripted begun result after :=
    run.widen fun _ _ _ _ allowed => .inl (World.allows_with_faults allowed)
  exact ⟨rfl, managed, result, after, widened, settled,
    (passBy_grows .inOrder rfl managed).of_ends widened⟩

end NamespacePass

end RegistryBridge
