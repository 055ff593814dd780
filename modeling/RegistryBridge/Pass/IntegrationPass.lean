import RegistryBridge.Pass.Basic
/-!
# A pass over an integration

A spec that has not been seen before is reported as seen in the integration's status. What has been
seen is remembered for as long as the bridge runs.

## Main definitions

* `LastSeen`: the fingerprint that was seen last, by name of the integration.
* `IntegrationPass.pass`
-/

namespace RegistryBridge

/-- The fingerprints that were seen last, by name of the integration. -/
abbrev LastSeen := Table String

namespace LastSeen

/-- Whether a fingerprint is the one that was seen last. -/
def isCurrent (seen : LastSeen) (name fingerprint : String) : Bool :=
  seen.get? name == some fingerprint

/-- Remembers a fingerprint. -/
def record (seen : LastSeen) (name fingerprint : String) : LastSeen :=
  seen.insert name fingerprint

/-- Forgets an integration. -/
def forget (seen : LastSeen) (name : String) : LastSeen :=
  seen.erase name

end LastSeen

namespace IntegrationPass

/-- The failure of a report. -/
def statusFailure (i : Integration) (e : OperationError) : Failure :=
  (Failure.ofError (Resource.reference i) "Failed to update QuayIntegration status" e).detail
    "QuayIntegration" i.metadata.displayName

/-- **A pass over an integration** at some time, given what has been seen; it ends with what has
been seen then. -/
def pass (now : Instant) (seen : LastSeen) (i : Integration) :
    Program Bridge (Except Failure Action × LastSeen) :=
  let name := i.metadata.displayName
  let fingerprint := i.spec.fingerprint
  if i.metadata.deleting then .done (.ok .awaitChange, seen.forget name)
  else if seen.isCurrent name fingerprint then .done (.ok .awaitChange, seen)
  else
    .ask (.cluster (.reportStatus name (.observed now)))
      fun (reply : Except OperationError Unit) =>
        match reply with
        | .ok () => .done (.ok .awaitChange, seen.record name fingerprint)
        | .error e =>
          let failure := statusFailure i e
          .ask (.publish (Event.ofFailure failure)) fun (_ : Unit) => .done (.error failure, seen)

end IntegrationPass

end RegistryBridge
