import RegistryBridge.ClusterApi.Client
/-!
# Recording events in the cluster

The first event of its sort is posted. When the same is told again, the first one is patched to say
how often it has been told. Whether an event can be recorded does not matter to the pass.

## Main definitions

* `Recorder`, `Recorder.record`
-/

namespace RegistryBridge

/-- What tells events of one sort from others: everything but the note. -/
structure EventSort where
  object : ObjectReference
  warning : Bool
  reason : String
  action : String
  deriving DecidableEq, Repr

/-- An event that the cluster has accepted: its name and document when it was told first, and how often
it has been told. -/
structure RecordedEvent where
  sort : EventSort
  name : String
  document : Json
  count : Nat := 1
  deriving DecidableEq, Repr

/-- Who tells events, and what has been told. -/
structure Recorder where
  controller : String
  reporter : Option String := none
  told : List RecordedEvent := []
  deriving DecidableEq, Repr

namespace Recorder

/-- The sort of an event. -/
def sortOf (e : Event) : EventSort :=
  ⟨e.object, e.warning, e.reason, e.action⟩

/-- The path of the events about an object. -/
def path (object : ObjectReference) : String :=
  ClusterApi.listPath "events.k8s.io/v1" "events" (some (object.ns.getD "default"))

/-- The name of an event about an object, told at some time. -/
def eventName (r : Recorder) (object : ObjectReference) (now : Instant) : String :=
  object.name.getD r.controller ++ "." ++ toString (now.seconds * 1000000000 + now.nanos)

/-- The document of an event told for the first time. -/
def document (r : Recorder) (e : Event) (now : Instant) : Json :=
  Json.record [
    some ("apiVersion", .text "events.k8s.io/v1"),
    some ("kind", .text "Event"),
    some ("action", .text e.action),
    some ("eventTime", .text now.microsText),
    some ("metadata", Json.record [
      some ("name", .text (r.eventName e.object now)),
      optionalEntry "namespace" .text e.object.ns]),
    optionalEntry "note" .text e.note,
    some ("reason", .text e.reason),
    some ("regarding", e.object.toJson),
    some ("reportingController", .text r.controller),
    some ("reportingInstance", .text (r.reporter.getD r.controller)),
    some ("type", .text e.kind)]

/-- The document of an event that has been told so many times: as it was told first, with the number
of times and the last of them. -/
def repeated (document : Json) (count : Nat) (now : Instant) : Json :=
  document.set "series" (.object [
    ("count", Json.ofNat count),
    ("lastObservedTime", .text now.microsText)])

/-- Reads whatever the cluster makes of an event. -/
def readEvent : Json.Reader Unit :=
  ((Resource.standard "events.k8s.io/v1" "Event" fun (_ : Metadata) => ())
    |>.field (.nullAs "metadata" Metadata.ofJson {})).readResource "Event"

/-- What has been told once an event is told again. -/
def again (r : Recorder) (sort : EventSort) : Recorder :=
  { r with told := r.told.map fun t => if t.sort = sort then { t with count := t.count + 1 } else t }

/-- **Records an event**, and remembers it when the cluster accepts it. -/
def record (r : Recorder) (e : Event) (now : Instant) : Program ClusterApi.Wire Recorder :=
  match r.told.find? fun t => t.sort = sortOf e with
  | none =>
    (ClusterApi.send
      { method := "POST", path := path e.object, contentType := some "application/json"
        body := some (r.document e now) } readEvent).bind fun result =>
      .done (match result with
        | .ok () =>
          { r with told := r.told ++ [⟨sortOf e, r.eventName e.object now, r.document e now, 1⟩] }
        | .error _ => r)
  | some told =>
    (ClusterApi.send
      (ClusterApi.merge (path e.object ++ "/" ++ told.name) []
        (repeated told.document (told.count + 1) now))
      readEvent).bind fun result =>
      .done (match result with
        | .ok () => r.again (sortOf e)
        | .error _ => r)

end Recorder

end RegistryBridge
