import RegistryBridge.Cluster.Definition
import RegistryBridge.Json.Printer
import RegistryBridge.Options
/-!
# The command

Prints the definition of the integration resource when asked to, else which parts of the bridge the
environment leaves running.
-/

namespace RegistryBridge

/-- What is said of the parts that run in a mode. -/
def Mode.plan (mode : Mode) (plain : Bool) : List String :=
  [if mode.runsReconcilers then "Starting Quay bridge controllers..."
    else "Webhook-only mode, controllers disabled",
   if mode.runsWebhook then "Admission webhook on " ++ listenAddress !plain
    else "Admission webhook disabled"]

end RegistryBridge

open RegistryBridge

/-- The whole command. -/
def main (arguments : List String) : IO UInt32 := do
  match Options.ofArguments arguments with
  | .error e =>
    IO.eprintln e.message
    return 2
  | .ok options =>
    if options.definition then
      IO.println Definition.document.compact
    else
      let webhookOnly ← IO.getEnv Settings.webhookOnlyVariable
      let noWebhook ← IO.getEnv Settings.noWebhookVariable
      let mode : Mode := ⟨webhookOnly.isSome, noWebhook.isSome⟩
      (mode.plan options.plain).forM fun line => IO.println line
    return 0
