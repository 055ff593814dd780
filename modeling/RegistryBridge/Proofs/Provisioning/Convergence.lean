import RegistryBridge.Proofs.Provisioning.Grown
import RegistryBridge.Proofs.Provisioning.Quiet
/-!
# Provisioning converges in one pass

Whatever earlier passes have left of a namespace in the registry and in the cluster, one pass that
nothing fails in makes up what is missing, in whatever way service accounts take turns. The next pass
finds nothing to do, in whatever way they take turns then.

## Main definitions

* `NamespacePass.Ready`: a namespace that a pass provisions, with all that the pass relies on.
* `Provisioning.HoldsToken`: a pull secret that holds the token of the robot.

## Main results

* `NamespacePass.Ready.passBy_settles`: one pass provisions the namespace.
* `NamespacePass.Ready.passBy_quiet`: a pass over a settled namespace only asks.
* `NamespacePass.pass_converges`
-/

namespace RegistryBridge

namespace Provisioning

variable {p : Provisioning}

/-- **A pull secret holds the token of the robot.** It is the secret that the token calls for, or one
of that kind and with those data that was there before. -/
def HoldsToken (p : Provisioning) (account : String) (w after : World) : Prop :=
  ∃ robot, p.HasRobot account robot after ∧
    let wanted := p.wanted account (p.named account robot).name (p.named account robot).token
    after.cluster.secrets.get? (p.secretKey account) = some wanted ∨
      ∃ secret, secret.agrees wanted = true ∧
        w.cluster.secrets.get? (p.secretKey account) = some secret ∧
        after.cluster.secrets.get? (p.secretKey account) = some secret

/-- Two pull secrets of one service account with the same data are the same. -/
theorem wanted_eq_of_agrees {account user token user' token' : String}
    (h : (p.wanted account user token).agrees (p.wanted account user' token') = true) :
    p.wanted account user token = p.wanted account user' token' := by
  have data : (p.wanted account user token).data = (p.wanted account user' token').data :=
    (Secret.agrees_iff.mp h).2
  exact congrArg (fun data => { p.wanted account user token with data }) data

end Provisioning

namespace NamespacePass

variable {n : Namespace} {i : Integration} {host : String} {w after : World}

/-! ## What a world that has grown still has -/

/-- Service accounts that are there stay. -/
theorem Grown.hasAccounts (h : Grown n i w after)
    (there : (provisioning n i host).HasAccounts w) :
    (provisioning n i host).HasAccounts after := by
  have stays : ∀ {secret : String} {a a' : Option ServiceAccount},
      Option.Rel (ServiceAccount.Joins secret) a a' → a.isSome = true → a'.isSome = true := by
    rintro secret _ _ (joined | _) before
    · rfl
    · exact before
  exact fun role mem => stays (h.accounts role mem) (there role mem)

/-- **A settled pull secret holds the token of the robot**, since a pull secret is written whole or
not at all. -/
theorem Grown.holdsToken (h : Grown n i w after) (named : Registry.host i.spec.hostname = .ok host)
    {role : String × Registry.Role} (mem : role ∈ roles)
    (settled : (provisioning n i host).RoleSettled role after) :
    (provisioning n i host).HoldsToken role.1 w after := by
  obtain ⟨robot, stored, -, ⟨secret, hsecret, agrees⟩, -⟩ := settled
  refine ⟨robot, stored, ?_⟩
  rcases h.secrets role mem with same | ⟨host', user, token, named', written⟩
  · exact .inr ⟨secret, agrees, same ▸ hsecret, hsecret⟩
  · obtain rfl : host = host' := Except.ok.inj (named.symm.trans named')
    replace written : after.cluster.secrets.get? ((provisioning n i host).secretKey role.1) =
      some ((provisioning n i host).wanted role.1 user token) := written
    obtain rfl := Option.some.inj (hsecret.symm.trans written)
    exact .inl (written.trans (congrArg some (Provisioning.wanted_eq_of_agrees agrees)))

/-! ## A namespace that a pass provisions -/

/-- **A namespace that a pass provisions**, with all that the pass relies on: the only integration
takes it, names a registry, and has its credentials in a secret that no pull secret replaces; the
namespace is held and not being deleted, and its service accounts are there. -/
structure Ready (n : Namespace) (i : Integration) (host : String) (w : World) : Prop where
  only : w.cluster.integrations = [i]
  named : Registry.host i.spec.hostname = .ok host
  credentials : ∃ entry, i.spec.HasCredentials entry w ∧
    ∀ role ∈ roles, qualified entry.ns entry.name ≠ (provisioning n i host).secretKey role.1
  alive : n.metadata.deleting = false
  held : n.metadata.finalizedBy Marks.finalizer = true
  allowed : i.spec.allows n.metadata.displayName = true
  accounts : (provisioning n i host).HasAccounts w

namespace Ready

theorem phase (h : Ready n i host w) :
    NamespacePhase.of n (i.spec.allows n.metadata.displayName) = .managed := by
  simp [NamespacePhase.of, h.alive, h.held, h.allowed]

/-- A namespace stays ready while it is provisioned. -/
theorem keep (h : Ready n i host w) (grown : Grown n i w after) : Ready n i host after where
  only := grown.integrations.trans h.only
  named := h.named
  credentials := by
    obtain ⟨entry, ⟨asked, secret, token, stored, readable⟩, elsewhere⟩ := h.credentials
    have same := grown.otherSecrets (qualified entry.ns entry.name) elsewhere
    exact ⟨entry, ⟨asked, secret, token, same.trans stored, readable⟩, elsewhere⟩
  alive := h.alive
  held := h.held
  allowed := h.allowed
  accounts := grown.hasAccounts h.accounts

/-- **The pass comes to provisioning** without having asked for anything but what it relies on. -/
theorem stepBy_always (h : Ready n i host w) (turns : Turns) {asked : Question → World → Prop}
    {ends : Action → World → Prop} {lost : Failure → World → Prop}
    (quiet : ∀ question w, question.isQuiet = true → asked question w)
    (provisions : (Provisioning.stepsBy turns (provisioning n i host)).Always (World.conduct False)
      asked (fun _ after => ends (.requeue 600000) after) lost w) :
    (stepBy turns n).Always (World.conduct False) asked ends lost w := by
  obtain ⟨entry, usable, -⟩ := h.credentials
  unfold stepBy
  rw [Step.always_bind]
  refine (Pass.integration_quiet h.only).mono quiet ?_ fun _ _ h => h.2.elim
  rintro _ _ ⟨rfl, rfl⟩
  rw [h.phase]
  unfold inPhaseBy provisionBy
  simp only [h.named]
  rw [Step.always_bind]
  refine (Pass.connect_quiet h.named usable).mono quiet ?_ fun _ _ h => h.2.elim
  rintro _ _ ⟨-, rfl⟩
  exact (Step.always_bind _ _).mpr provisions

/-- **Provisioning that nothing fails in provides for everything**, and takes nothing away. -/
theorem stepsBy_settles (h : Ready n i host w) (turns : Turns) :
    (Provisioning.stepsBy turns (provisioning n i host)).Always (World.conduct False)
      Provisioning.anything
      (fun _ after => (provisioning n i host).Settled after ∧ Grown n i w after)
      (fun _ _ => False) w := by
  have provides := Provisioning.stepsBy_provisions (p := provisioning n i host) False turns (w, [])
  have both := provides.keeping (fun s => Grows n i w s.1) ?grows (.refl w)
  case grows =>
    intro question s reply after proper allowed grown
    exact grown.trans (Modest.grows (.inr ⟨host, h.named, proper.modest⟩) allowed.1)
  refine Step.Always.unrecorded (t := []) (both.mono (fun _ _ _ => trivial) ?_ ?_)
  · rintro _ s ⟨provisioned, grows⟩
    exact ⟨provisioned.toSettled, grows.grown⟩
  · -- Nothing fails, and the service accounts that were there are still there.
    rintro _ s ⟨never | missing, grows⟩
    · exact never
    · exact missing (grows.grown.hasAccounts h.accounts)

/-- **One pass provisions the namespace**, in whatever way service accounts take turns. -/
theorem passBy_settles (h : Ready n i host w) (turns : Turns) :
    (passBy turns n).Always (World.conduct False) Provisioning.anything
      (fun result after => result = .ok (.requeue 600000) ∧
        (provisioning n i host).Settled after ∧ Grown n i w after) w := by
  have run : (stepBy turns n).Always (World.conduct False) Provisioning.anything
      (fun action after => action = .requeue 600000 ∧
        (provisioning n i host).Settled after ∧ Grown n i w after)
      (fun _ _ => False) w :=
    h.stepBy_always turns (fun _ _ _ => trivial) ((h.stepsBy_settles turns).mono
      (fun _ _ => id) (fun _ _ h => ⟨rfl, h⟩) fun _ _ => id)
  exact Pass.always_reporting (run.mono (fun _ _ => id)
    (fun _ _ h => ⟨congrArg Except.ok h.1, h.2⟩) fun _ _ => False.elim)

/-- **A pass over a settled namespace is quiet**, in whatever way service accounts take turns, and
comes back like the one before it. -/
theorem passBy_quiet (h : Ready n i host w) (settled : (provisioning n i host).Settled w)
    (turns : Turns) :
    (passBy turns n).Always (World.conduct False) (fun question _ => question.isQuiet = true)
      (fun result after => result = .ok (.requeue 600000) ∧ after = w) w := by
  have run : (stepBy turns n).Always (World.conduct False)
      (fun question _ => question.isQuiet = true)
      (fun action after => action = .requeue 600000 ∧ after = w) (fun _ _ => False) w :=
    h.stepBy_always turns (fun _ _ => id) ((settled.quiet turns).mono (fun _ _ => id)
      (fun _ _ h => ⟨rfl, h.2⟩) fun _ _ h => h.2)
  exact Pass.always_reporting (run.mono (fun _ _ => id)
    (fun _ _ h => ⟨congrArg Except.ok h.1, h.2⟩) fun _ _ => False.elim)

end Ready

/-- **Provisioning converges in one pass.** Whatever a registry and a cluster that answer honestly
hold, and in whatever way service accounts take turns, a pass that nothing fails in comes to an end,
asks to be repeated in ten minutes, and leaves the namespace with all it needs. From there on another
pass, in whatever way they take turns then, only asks, comes to the same end, and leaves everything as
it is. -/
theorem pass_converges (turns : Turns) (h : Ready n i host w) :
    (∃ result after, (passBy turns n).Ends (World.conduct False) w result after) ∧
      ∀ result after, (passBy turns n).Ends (World.conduct False) w result after →
        result = .ok (.requeue 600000) ∧
          (provisioning n i host).Settled after ∧
          (∀ role ∈ roles, (provisioning n i host).HoldsToken role.1 w after) ∧
          ∀ turns' : Turns, (passBy turns' n).Always (World.conduct False)
            (fun question _ => question.isQuiet = true)
            (fun again last => again = result ∧ last = after) after := by
  refine ⟨Program.exists_ends _ _ _, fun result after run => ?_⟩
  obtain ⟨rfl, settled, grown⟩ := (h.passBy_settles turns).of_ends run
  refine ⟨rfl, settled, fun role mem => ?_, fun turns' => ?_⟩
  · exact grown.holdsToken h.named mem (settled.roles role mem)
  · exact (h.keep grown).passBy_quiet settled turns'

/-! ## A namespace that was provisioned in part -/

/-- A namespace that the bridge holds. -/
def shop : Namespace :=
  { metadata := { name := some "shop", finalizers := some [Marks.finalizer] } }

/-- An integration that takes every namespace but the platform's own. -/
def acme : Integration :=
  { metadata := { name := some "bridge" }
    spec :=
      { clusterId := "acme"
        hostname := "[::1]"
        credentials := some { name := "credentials", ns := "bridge" } } }

/-- A service account of the namespace, with what it pulls with. -/
def shopAccount (name : String) (links : List LocalReference) : String × ServiceAccount :=
  (qualified "shop" name,
    { metadata := { name := some name, ns := some "shop" }, imagePullSecrets := some links })

/-- What a failed pass has left: one robot without its prototype, an empty pull secret that its
service account has in one list only, and no organization, since somebody has removed it. -/
def begun : World :=
  { cluster :=
      { integrations := [acme]
        secrets := Table.ofList
          [(qualified "bridge" "credentials",
              { metadata := { name := some "credentials" }
                data := some [("token", "t\n".toUTF8)] }),
            (qualified "shop" "builder-quay-acme",
              { metadata := { name := some "builder-quay-acme" } })]
        serviceAccounts := Table.ofList
          [shopAccount "builder" [⟨"builder-quay-acme"⟩], shopAccount "default" [],
            shopAccount "deployer" []]
        imageStreams := [{ metadata := { name := some "cart", ns := some "shop" } }] }
    registry := { robots := [("acme_shop+builder", { name := "acme_shop+builder", token := "b" })] } }

theorem ready_begun : Ready shop acme "[::1]" begun where
  only := rfl
  named := by rfl
  credentials := ⟨_, ⟨rfl, _, "t", rfl, by rfl⟩, by decide +kernel⟩
  alive := rfl
  held := by decide
  allowed := by decide
  accounts := by
    unfold Provisioning.HasAccounts
    decide +kernel

theorem begun_converges :
    Ready shop acme "[::1]" begun ∧
      ∀ turns result after, (passBy turns shop).Ends (World.conduct False) begun result after →
        result = .ok (.requeue 600000) ∧ (provisioning shop acme "[::1]").Settled after := by
  refine ⟨ready_begun, fun turns result after run => ?_⟩
  obtain ⟨same, settled, -⟩ := (pass_converges turns ready_begun).2 result after run
  exact ⟨same, settled⟩

end NamespacePass

end RegistryBridge
