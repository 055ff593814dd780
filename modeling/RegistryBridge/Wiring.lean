import RegistryBridge.ClusterApi.Recorder
import RegistryBridge.Registry.Client
/-!
# Passes over the web

A pass asks its questions of the cluster's interface and of the registry's. The wiring holds the
connection that the pass has opened and the events that have been told.

## Main definitions

* `Wiring`, `Wiring.answer`: a question as requests.
* `Wiring.run`: a whole pass as requests.
-/

namespace RegistryBridge

/-- A request to one of the two interfaces. -/
inductive WebRequest where
  | cluster (request : ClusterApi.Request)
  | registry (request : RegistryRequest)
  deriving DecidableEq

/-- What comes back. -/
def WebRequest.Reply : WebRequest → Type
  | cluster _ => ClusterApi.Answer
  | registry _ => RegistryReply

/-- The requests of a pass with their answers. -/
def Web : Interface := ⟨WebRequest, WebRequest.Reply⟩

/-- The connection that a pass has opened, and the events that have been told. -/
structure Wiring where
  recorder : Recorder
  connection : Option Connection := none

namespace Wiring

variable {α : Type}

/-- A program of requests to the cluster among requests to both. -/
def ofCluster : Program ClusterApi.Wire α → Program Web α
  | .done value => .done value
  | .ask request next => .ask (.cluster request) fun (a : ClusterApi.Answer) => ofCluster (next a)

/-- A program of requests to the registry among requests to both. -/
def ofRegistry : Program RegistryWire α → Program Web α
  | .done value => .done value
  | .ask request next => .ask (.registry request) fun (r : RegistryReply) => ofRegistry (next r)

/-- **A question as requests**, at some time. -/
def answer (now : Instant) (question : Question) (w : Wiring) :
    Program Web (question.Answer × Wiring) :=
  match question with
  | .cluster call =>
    (ofCluster (ClusterApi.call call)).bind fun result => .done (result, w)
  | .connect hostname token insecure =>
    match Connection.ofHostname hostname token insecure with
    | .error e => .done ((.error e : Except RegistryError Unit), w)
    | .ok connection =>
      .done ((.ok () : Except RegistryError Unit), { w with connection := some connection })
  | .registry call =>
    match w.connection with
    | none =>
      .done ((.error (.transport call.operation "not connected") :
        Except RegistryError (Registry.Response call.Value)), w)
    | some connection =>
      (ofRegistry (connection.call call)).bind fun result => .done (result, w)
  | .publish event =>
    (ofCluster (w.recorder.record event now)).bind fun recorder =>
      .done ((), { w with recorder })

/-- **A whole pass as requests.** -/
def run (now : Instant) (p : Program Bridge α) (w : Wiring) : Program Web (α × Wiring) :=
  p.through (I := Bridge) (answer now) w

end Wiring

end RegistryBridge
