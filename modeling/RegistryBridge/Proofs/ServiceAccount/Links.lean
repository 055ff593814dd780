import RegistryBridge.SecretLinks
/-!
# What linking a secret does

## Main results

* `ServiceAccount.linksWith_eq_none_iff`: nothing is to be linked exactly when both lists have the
  secret.
* `ServiceAccount.eq_of_linksWith`: the lists that are written.
* `ServiceAccount.linked_of_linksWith`: they have the secret.
-/

namespace RegistryBridge.ServiceAccount

variable {a : ServiceAccount} {secret : String} {links : SecretLinks}

/-- Whether an account is linked to a secret: it pulls with it and may use it. -/
def Linked (a : ServiceAccount) (secret : String) : Prop :=
  a.pullsWith secret = true ∧ a.uses secret = true

theorem linksWith_eq_none_iff : a.linksWith secret = none ↔ a.Linked secret := by
  unfold linksWith Linked
  rw [← Bool.and_eq_true]
  split
  · simp_all
  · simp_all

/-- **What is written**: each list as it was if it has the secret, else with a reference at its end. -/
theorem eq_of_linksWith (h : a.linksWith secret = some links) :
    links =
      { imagePullSecrets :=
          if a.pullsWith secret then a.links.imagePullSecrets
          else a.links.imagePullSecrets ++ [⟨secret⟩]
        secrets :=
          if a.uses secret then a.links.secrets
          else a.links.secrets ++ [{ name := some secret }] } := by
  unfold linksWith at h
  split at h
  · cases h
  · exact (Option.some.inj h).symm

theorem pullsWith_withLinks (a : ServiceAccount) (links : SecretLinks) (secret : String) :
    (a.withLinks links).pullsWith secret = links.imagePullSecrets.any (·.name == secret) := rfl

theorem uses_withLinks (a : ServiceAccount) (links : SecretLinks) (secret : String) :
    (a.withLinks links).uses secret = links.secrets.any (·.name == some secret) := rfl

/-- **An account with the lists that are written is linked.** -/
theorem linked_of_linksWith (h : a.linksWith secret = some links) :
    (a.withLinks links).Linked secret := by
  obtain rfl := eq_of_linksWith h
  constructor
  · rw [pullsWith_withLinks]
    split
    · exact ‹a.pullsWith secret = true›
    · simp
  · rw [uses_withLinks]
    dsimp only
    split
    · exact ‹a.uses secret = true›
    · simp

end RegistryBridge.ServiceAccount
