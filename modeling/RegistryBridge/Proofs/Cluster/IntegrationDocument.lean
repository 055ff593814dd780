import RegistryBridge.Cluster.Integration
import RegistryBridge.Proofs.Json.Written
/-!
# Integrations by their documents

The spec of an integration is read back from the document that is written for it. The document has no
numbers, so that its text stands for it alone: two specs have one fingerprint only when they are equal,
and the text is read as that document.

## Main results

* `SecretKey.returned`, `IntegrationSpec.returned`: specs are read back.
* `IntegrationSpec.fingerprint_inj`, `IntegrationSpec.parse?_fingerprint`: a fingerprint stands for
  one spec, and is read back.
-/

namespace RegistryBridge

open Json (Field Record Reader)

namespace SecretKey

/-- **The coordinates of an entry are read back.** -/
theorem returned (k : SecretKey) :
    Json.Returned ofJson ["name", "namespace", "key"] k.toJson k :=
  ((Record.Returns.of SecretKey.mk).field (Field.returns_required "name" (Reader.text_text k.name)))
    |>.field (Field.returns_required "namespace" (Reader.text_text k.ns))
    |>.field (Field.returns_optionalText "key" k.key)
    |>.returned (by decide)

theorem numberless_toJson (k : SecretKey) : k.toJson.Numberless := by
  have text : ∀ t : String, (Json.text t).Numberless := fun _ => trivial
  simp only [toJson, Json.numberless_record_some, Json.numberless_record_nil,
    Json.numberless_record_optionalEntry text]
  exact ⟨trivial, trivial, trivial⟩

theorem nesting_toJson_le (k : SecretKey) : k.toJson.nesting ≤ 1 := by
  have text : ∀ t : String, (Json.text t).nesting = 0 := fun _ => rfl
  simp [toJson, Json.nesting_record_optionalEntry, text]

end SecretKey

namespace IntegrationSpec

/-- **A spec is read back** from its document. -/
theorem returned (s : IntegrationSpec) :
    Json.Returned ofJson
      ["clusterID", "credentialsSecret", "organizationPrefix", "quayHostname", "insecureRegistry",
        "scheduledImageStreamImport", "denylistNamespaces", "allowlistNamespaces"]
      s.toJson s :=
  ((Record.Returns.of IntegrationSpec.mk).field
      (Field.returns_required "clusterID" (Reader.text_text s.clusterId)))
    |>.field (Field.returns_optional "credentialsSecret" (fun k _ => k.returned.back)
      fun k _ => k.returned.ne_null)
    |>.field (Field.returns_optionalText "organizationPrefix" s.organizationStem)
    |>.field (Field.returns_required "quayHostname" (Reader.text_text s.hostname))
    |>.field (Field.returns_withDefault "insecureRegistry" false (Reader.bool_bool s.insecure))
    |>.field (Field.returns_withDefault "scheduledImageStreamImport" false
      (Reader.bool_bool s.scheduledImport))
    |>.field (Field.returns_list "denylistNamespaces" Reader.text_text s.denied)
    |>.field (Field.returns_list "allowlistNamespaces" Reader.text_text s.allowed)
    |>.returned (by decide)

theorem numberless_toJson (s : IntegrationSpec) : s.toJson.Numberless := by
  have text : ∀ t : String, (Json.text t).Numberless := fun _ => trivial
  simp only [toJson, Json.numberless_record_some, Json.numberless_record_nil,
    Json.numberless_record_optionalEntry SecretKey.numberless_toJson,
    Json.numberless_record_optionalEntry text, Json.numberless_record_listEntry text]
  exact ⟨trivial, trivial, trivial, trivial, trivial⟩

/-- Its credentials and its lists stand inside the spec, and nothing inside them. -/
theorem nesting_toJson_le (s : IntegrationSpec) : s.toJson.nesting ≤ 2 := by
  have text : ∀ t : String, (Json.text t).nesting = 0 := fun _ => rfl
  have bool : ∀ b : Bool, (Json.bool b).nesting = 0 := fun _ => rfl
  have key : ∀ k : SecretKey, k.toJson.nesting < 2 := fun k => Nat.lt_succ_of_le k.nesting_toJson_le
  simp [toJson, Json.nesting_record_optionalEntry key, Json.nesting_record_optionalEntry,
    Json.nesting_record_listEntry, text, bool]

/-- **A fingerprint stands for one spec.** -/
theorem fingerprint_inj {s s' : IntegrationSpec} : s.fingerprint = s'.fingerprint ↔ s = s' := by
  refine ⟨fun same => ?_, congrArg fingerprint⟩
  have documents := Json.compact_injective s.numberless_toJson s'.numberless_toJson same
  have read := congrArg ofJson documents
  rw [s.returned.back, s'.returned.back] at read
  exact Except.ok.inj read

/-- **A fingerprint is a document**, the one that was written. -/
theorem parse?_fingerprint (s : IntegrationSpec) : Json.parse? s.fingerprint = some s.toJson :=
  Json.parse?_compact s.numberless_toJson (Nat.le_trans s.nesting_toJson_le (by decide))

end IntegrationSpec

end RegistryBridge
