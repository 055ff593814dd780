import RegistryBridge.Policy
import RegistryBridge.Proofs.Text.Pieces
/-!
# Names in the registry tell their owners apart

An organization is called by its cluster and its namespace, a robot by its organization and the
service account that it stands for. The names are put together with a sign and nothing is escaped, and
the cluster is called as somebody likes: its own name may hold the sign, any number of times. It is
the last sign that divides the name, since none stands in the name of a namespace.

## Main results

* `organizationName_eq_iff`, `robotName_eq_iff`: when two names are the same.
* `names_apart`
-/

namespace RegistryBridge

variable {clusterId clusterId' ns ns' organization organization' short short' : String}

/-- **Two organizations have one name** only where their clusters differ in case at most and their
namespaces not at all. -/
theorem organizationName_eq_iff (plain : '_' ∉ ns.toList) (plain' : '_' ∉ ns'.toList) :
    organizationName clusterId ns = organizationName clusterId' ns' ↔
      Text.lowercase clusterId = Text.lowercase clusterId' ∧ ns = ns' := by
  have signed : ∀ clusterId ns : String, (organizationName clusterId ns).toList =
      (Text.lowercase clusterId).toList ++ '_' :: ns.toList := by
    simp [organizationName]
  rw [← String.toList_inj, signed, signed, Text.append_last_inj plain plain', String.toList_inj,
    String.toList_inj]

-- A sign in the name of a namespace would move the division.
example : organizationName "acme" "eu_shop" = organizationName "acme_eu" "shop" := by
  decide +kernel

/-- **Two robots have one name** only where both their organization and their short name are the
same. -/
theorem robotName_eq_iff (plain : '+' ∉ short.toList) (plain' : '+' ∉ short'.toList) :
    robotName organization short = robotName organization' short' ↔
      organization = organization' ∧ short = short' := by
  have signed : ∀ organization short : String, (robotName organization short).toList =
      organization.toList ++ '+' :: short.toList := by
    simp [robotName]
  rw [← String.toList_inj, signed, signed, Text.append_last_inj plain plain', String.toList_inj,
    String.toList_inj]

/-- **Names in the registry tell their owners apart**, whatever signs the names of clusters hold. Two
namespaces, of one cluster or of two, have organizations of one name exactly where they are called
alike and their clusters too, but for the case of letters. A robot's name gives its organization and
its short name, so it gives its cluster, in lower case, and its namespace as well. -/
theorem names_apart (plain : '_' ∉ ns.toList) (plain' : '_' ∉ ns'.toList) :
    (organizationName clusterId ns = organizationName clusterId' ns' ↔
        Text.lowercase clusterId = Text.lowercase clusterId' ∧ ns = ns') ∧
      ∀ short short' : String, '+' ∉ short.toList → '+' ∉ short'.toList →
        (∀ organization organization', robotName organization short =
            robotName organization' short' ↔ organization = organization' ∧ short = short') ∧
          (robotName (organizationName clusterId ns) short =
              robotName (organizationName clusterId' ns') short' ↔
            Text.lowercase clusterId = Text.lowercase clusterId' ∧ ns = ns' ∧ short = short') := by
  refine ⟨organizationName_eq_iff plain plain', fun short short' free free' => ⟨?_, ?_⟩⟩
  · exact fun _ _ => robotName_eq_iff free free'
  · rw [robotName_eq_iff free free', organizationName_eq_iff plain plain', and_assoc]

/-- The cluster's sign and its capital letters notwithstanding. -/
theorem names_apart_signed :
    '_' ∉ "shop".toList ∧ '_' ∉ "eu".toList ∧ '+' ∉ "builder".toList ∧ '+' ∉ "default".toList ∧
      organizationName "ACME_EU" "shop" = organizationName "acme_eu" "shop" ∧
      organizationName "ACME_EU" "shop" ≠ organizationName "acme" "eu" ∧
      robotName (organizationName "ACME_EU" "shop") "builder" ≠
        robotName (organizationName "acme" "eu") "default" :=
  have one : '_' ∉ "shop".toList := by decide
  have other : '_' ∉ "eu".toList := by decide
  have first : '+' ∉ "builder".toList := by decide
  have second : '+' ∉ "default".toList := by decide
  have spelled : Text.lowercase "ACME_EU" = Text.lowercase "acme_eu" := by decide +kernel
  have apart : "shop" ≠ "eu" := by decide
  ⟨one, other, first, second, (names_apart one one).1.mpr ⟨spelled, rfl⟩,
    fun same => apart ((names_apart one other).1.mp same).2,
    fun same => apart (((names_apart one other).2 _ _ first second).2.mp same).2.1⟩

end RegistryBridge
