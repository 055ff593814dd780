import RegistryBridge.Pass.IntegrationPass
import RegistryBridge.Proofs.Cluster.IntegrationDocument
/-!
# What a fingerprint tells

A bridge remembers the fingerprint of a spec in the place of the spec, and passes over an integration
without a word when it comes upon the fingerprint again. Nothing is lost by that: whatever signs stand
in its texts, whatever is absent from it and however its lists are divided, a spec has a fingerprint
of its own.

## Main results

* `LastSeen.isCurrent_record_iff`, `IntegrationPass.silent_iff`: what goes by the fingerprint goes by
  the spec.
* `IntegrationSpec.fingerprint_identifies`
-/

namespace RegistryBridge

/-- What has just been remembered is current, and of other specs nothing is. -/
theorem LastSeen.isCurrent_record_iff (seen : LastSeen) (name : String) (s t : IntegrationSpec) :
    (seen.record name s.fingerprint).isCurrent name t.fingerprint = true ↔ s = t := by
  rw [isCurrent, record, Table.get?_insert_self, beq_iff_eq, Option.some_inj,
    IntegrationSpec.fingerprint_inj]

/-- **A pass asks for nothing** over an integration that is being deleted, and where it comes upon the
spec that it has seen. -/
theorem IntegrationPass.silent_iff (now : Instant) (seen : LastSeen) (i : Integration)
    (s : IntegrationSpec) :
    (∃ result, pass now (seen.record i.metadata.displayName s.fingerprint) i = .done result) ↔
      i.metadata.deleting = true ∨ i.spec = s := by
  have known := seen.isCurrent_record_iff i.metadata.displayName s i.spec
  rw [eq_comm (a := i.spec), ← known]
  unfold pass
  dsimp only
  split
  · rename_i deleting
    simp [deleting]
  · rename_i living
    split
    · rename_i current
      simp [current]
    · rename_i new
      simp [living, new]

/-- **A fingerprint tells the spec**: it is that of no other one, and the spec can be read from it. So
of an integration that is not being deleted a change of the spec is never taken for the spec that was
seen last, and the spec that was seen last never for a change. -/
theorem IntegrationSpec.fingerprint_identifies (s t : IntegrationSpec) :
    (s.fingerprint = t.fingerprint ↔ s = t) ∧
      (Json.parse? s.fingerprint).map ofJson = some (.ok s) ∧
      (∀ (seen : LastSeen) (name : String),
        (seen.record name s.fingerprint).isCurrent name t.fingerprint = true ↔ s = t) ∧
      ∀ (now : Instant) (seen : LastSeen) (i : Integration),
        (∃ result, IntegrationPass.pass now
            (seen.record i.metadata.displayName s.fingerprint) i = .done result) ↔
          i.metadata.deleting = true ∨ i.spec = s := by
  refine ⟨fingerprint_inj, ?_, ?_, ?_⟩
  · rw [s.parse?_fingerprint, Option.map_some, s.returned.back]
  · exact fun seen name => seen.isCurrent_record_iff name s t
  · exact fun now seen i => IntegrationPass.silent_iff now seen i s

-- A list of two texts and one of their text with a comma in it.
example : ({ clusterId := "acme", hostname := "quay.io", denied := ["a", "b"] } :
      IntegrationSpec).fingerprint ≠
    ({ clusterId := "acme", hostname := "quay.io", denied := ["a\",\"b"] } :
      IntegrationSpec).fingerprint := by
  decide +kernel

end RegistryBridge
