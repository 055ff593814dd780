import RegistryBridge.Proofs.Pass.Heard
import RegistryBridge.Proofs.Provisioning.Convergence
import RegistryBridge.Proofs.PullSecret.Reading
/-!
# When a pull secret is written

A provisioning pass reads the pull secret of a service account before it writes it. It writes exactly
when what it has read would let in elsewhere, as someone else or with another password.

## Main results

* `Provisioning.queries_of_pullSecretStep`: what is asked once a pull secret has been read.
* `PullSecret.secrets_faithful`: what is read from a pull secret, which ones agree, and when one is
  written.
-/

namespace RegistryBridge

/-- **Once a pull secret has been read** it is written, unless it is as it should be. -/
theorem Provisioning.queries_of_pullSecretStep {p : Provisioning} {account : String}
    {robot : Registry.Robot} {existing : Option Secret} {rest : Transcript Bridge}
    {ended : Except Failure Unit}
    (run : (p.pullSecretStep account robot).Hears
      (.cluster (.getSecret p.ns (p.spec.pullSecretName account)) (.ok existing) :: rest) ended) :
    rest.map Exchange.query =
      if (existing.map (·.agrees (p.wanted account robot.name robot.token))) = some true then []
      else [.cluster (.applySecret (p.wanted account robot.name robot.token))] := by
  rcases Step.hears_cluster_bind_iff.mp run with ⟨e, failed, -⟩ | ⟨found, after, heard, onward⟩
  · obtain ⟨same, -⟩ := List.cons.inj failed
    cases Exchange.mk.inj same |>.2
  · obtain ⟨same, rfl⟩ := List.cons.inj heard
    obtain rfl := Except.ok.inj (eq_of_heq (Exchange.mk.inj same).2)
    rcases Step.hears_ite_iff.mp onward with ⟨agrees, kept⟩ | ⟨differs, written⟩
    · obtain ⟨rfl, -⟩ := Step.hears_pure_iff.mp kept
      exact (if_pos agrees).symm
    · obtain ⟨reply, rfl, -⟩ := Step.hears_cluster_iff.mp written
      exact (if_neg differs).symm

/-- **Pull secrets are faithful.** The document of a pull secret is read as the one host with the
Base64 of name and password, whatever characters they are made of, and of a name without a colon
everything is recovered. So two pull secrets agree exactly when their logins are the same, wherever
they lie; and a pass that has read a pull secret writes it anew exactly when its login is to change. -/
theorem PullSecret.secrets_faithful :
    (∀ host user token,
      Json.parse? (config host user token).compact =
          some (.object [("auths", .object [(host, .object [("auth",
            .text (Base64.encode (user ++ ":" ++ token).toUTF8))])])]) ∧
        Base64.decode? (Base64.encode (user ++ ":" ++ token).toUTF8) =
          some (user ++ ":" ++ token).toUTF8 ∧
        (':' ∉ user.toList → ∀ name ns,
          (secret name ns host user token).login? = some ⟨host, user, token⟩)) ∧
      (∀ name ns host user token name' ns' host' user' token',
        ':' ∉ user.toList → ':' ∉ user'.toList →
          ((secret name ns host user token).agrees (secret name' ns' host' user' token') = true ↔
            host = host' ∧ user = user' ∧ token = token')) ∧
      ∀ (p : Provisioning) (account : String) (robot : Registry.Robot) (name ns host user token)
        (rest : Transcript Bridge) (ended : Except Failure Unit),
        ':' ∉ user.toList → ':' ∉ robot.name.toList →
          (p.pullSecretStep account robot).Hears
            (.cluster (.getSecret p.ns (p.spec.pullSecretName account))
              (.ok (some (secret name ns host user token))) :: rest) ended →
            rest.map Exchange.query =
              if host = p.host ∧ user = robot.name ∧ token = robot.token then []
              else [.cluster (.applySecret (p.wanted account robot.name robot.token))] := by
  refine ⟨fun host user token => ⟨parse?_config host user token, Base64.decode?_encode _, ?_⟩,
    fun _ _ _ _ _ _ _ _ _ _ => agrees_secret_iff, ?_⟩
  · intro plain name ns
    exact login?_secret plain
  · intro p account robot name ns host user token rest ended plain plain' run
    have agrees : ((some (secret name ns host user token)).map
        (·.agrees (p.wanted account robot.name robot.token))) = some true ↔
          host = p.host ∧ user = robot.name ∧ token = robot.token := by
      rw [Option.map_some, Option.some_inj]
      exact agrees_secret_iff plain plain'
    rw [Provisioning.queries_of_pullSecretStep run]
    exact if_congr agrees rfl rfl

/-! ## A robot whose token was rotated -/

open NamespacePass (provisioning shop acme)

namespace PullSecret

/-- The robot, with its new token. -/
def rotated : Registry.Robot :=
  { name := "acme_shop+builder", token := "fresh:2" }

/-- The pull secret with the old token, as it was made for the same host. -/
def outdated : Secret :=
  secret "builder-quay-acme" "shop" "[::1]" "acme_shop+builder" "stale"

/-- What is heard while the new token is put into the pull secret. -/
def replaced : Transcript Bridge :=
  [.cluster (.getSecret "shop" "builder-quay-acme") (.ok (some outdated)),
    .cluster (.applySecret ((provisioning shop acme "[::1]").wanted "builder" "acme_shop+builder"
      "fresh:2")) (.ok ())]

theorem secrets_faithful_rotated :
    ':' ∉ "acme_shop+builder".toList ∧
      outdated.login? = some ⟨"[::1]", "acme_shop+builder", "stale"⟩ ∧
      (outdated.agrees (secret "s" "n" "[::1]" "acme_shop+builder" "stale") = true ↔
        "[::1]" = "[::1]" ∧ "acme_shop+builder" = "acme_shop+builder" ∧ "stale" = "stale") ∧
      ((provisioning shop acme "[::1]").pullSecretStep "builder" rotated).Hears replaced (.ok ()) ∧
      replaced.tail.map Exchange.query = [.cluster (.applySecret
        ((provisioning shop acme "[::1]").wanted "builder" "acme_shop+builder" "fresh:2"))] := by
  have plain : ':' ∉ "acme_shop+builder".toList := by decide
  have differs : ¬ ("[::1]" = "[::1]" ∧ "acme_shop+builder" = "acme_shop+builder" ∧
      "stale" = "fresh:2") := by decide
  have stale : outdated.agrees ((provisioning shop acme "[::1]").wanted "builder"
      "acme_shop+builder" "fresh:2") ≠ true :=
    fun agrees => differs ((agrees_secret_iff plain plain).mp agrees)
  have run : ((provisioning shop acme "[::1]").pullSecretStep "builder" rotated).Hears replaced
      (.ok ()) := by
    refine Step.hears_cluster_bind_iff.mpr (.inr ⟨some outdated, _, rfl, ?_⟩)
    refine Step.hears_ite_iff.mpr (.inr ⟨fun agrees => stale (Option.some.inj agrees), ?_⟩)
    exact Step.hears_cluster_iff.mpr ⟨.ok (), rfl, rfl⟩
  refine ⟨plain, (secrets_faithful.1 _ _ _).2.2 plain _ _,
    secrets_faithful.2.1 _ _ _ _ _ _ _ _ _ _ plain plain, run, ?_⟩
  have asked := secrets_faithful.2.2 _ _ _ _ _ _ _ _ _ _ plain plain run
  exact asked.trans (if_neg differs)

end PullSecret

end RegistryBridge
