import RegistryBridge.Registry.Address
/-!
# When an integration names a registry

The two readings of a hostname test for different things. The name in image references must not be
empty; the address of the interface must be able to carry a path. That an address can do as soon as it
has a host, since two slashes stand before the host.

## Main results

* `Registry.host_eq_ok_iff`, `Registry.base_eq_ok_iff`: when either reading succeeds, and with what.
-/

namespace RegistryBridge

/-- **An address with a host can carry a path.** -/
theorem Url.isOpaque_eq_false {url : Url} {host : Host} (named : url.host = some host) :
    url.isOpaque = false := by
  simp [isOpaque, behindScheme, site, named]

namespace Registry

variable {hostname name : String} {url : Url}

/-- **The name of a registry** is that of the host and port of the address. -/
theorem host_eq_ok_iff :
    Registry.host hostname = .ok name ↔
      ∃ url host, address hostname = .ok url ∧ url.host = some host ∧ host.text ≠ "" ∧
        name = Url.authority host url.port := by
  unfold Registry.host
  cases address hostname with
  | error e => simp
  | ok url =>
    dsimp only
    cases filled : url.host.filter fun host => host.text ≠ "" with
    | none =>
      refine ⟨nofun, ?_⟩
      rintro ⟨_, host, ⟨⟩, named, something, -⟩
      rw [named, Option.filter_some, if_pos (by simpa using something)] at filled
      cases filled
    | some host =>
      obtain ⟨named, something⟩ := Option.filter_eq_some_iff.mp filled
      simp only [decide_eq_true_eq] at something
      refine ⟨fun h => ⟨url, host, rfl, named, something, (Except.ok.inj h).symm⟩, ?_⟩
      rintro ⟨_, other, ⟨⟩, also, -, rfl⟩
      rw [Option.some.inj (named.symm.trans also)]

/-- **The address of a registry's interface** is the one that was read, if it has a host. -/
theorem base_eq_ok_iff :
    Registry.base hostname = .ok url ↔ address hostname = .ok url ∧ ∃ host, url.host = some host := by
  unfold Registry.base
  cases address hostname with
  | error e => simp
  | ok read =>
    dsimp only
    cases named : read.host with
    | none =>
      refine ⟨by simp, ?_⟩
      rintro ⟨⟨⟩, host, also⟩
      cases named.symm.trans also
    | some host =>
      rw [Url.isOpaque_eq_false named, if_neg (by simp)]
      constructor
      · rintro ⟨⟩
        exact ⟨rfl, host, named⟩
      · rintro ⟨⟨⟩, -⟩
        rfl

end Registry

end RegistryBridge
