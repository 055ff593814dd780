import RegistryBridge.Registry.Client
import RegistryBridge.World.Cluster
import RegistryBridge.World.Registry
/-!
# An honest world

## Main definitions

* `World.answer`: the answer to any question of a pass.
* `World.run`: a program run in a world.
-/

namespace RegistryBridge.World

variable {α : Type}

/-- **The answer to a question**, and the world then. A connection opens when the registry's address
can be read. -/
def answer (question : Question) (w : World) : question.Answer × World :=
  match question with
  | .cluster call =>
    let (value, cluster) := w.cluster.answer call
    ((.ok value : Except OperationError call.Value), { w with cluster })
  | .connect hostname token insecure =>
    ((Connection.ofHostname hostname token insecure).map fun _ => (), w)
  | .registry call =>
    let (response, registry) := w.registry.answer call
    ((.ok response : Except RegistryError (Registry.Response call.Value)), { w with registry })
  | .publish _ => ((), w)

/-- **A program run in a world.** -/
def run (p : Program Bridge α) (w : World) : α × World :=
  p.run (I := Bridge) answer w

end RegistryBridge.World
