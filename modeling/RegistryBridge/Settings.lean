import RegistryBridge.Cluster.Integration
/-!
# Settings of the bridge

The names by which the bridge marks objects of the cluster and is known to it, where its webhook
listens, and how the environment switches its parts on and off.

## Main definitions

* `Marks`: annotations and the finalizer.
* `Settings`: names, files, ports and times.
* `Mode`, `Mode.ofVariables`; `listenAddress`; `Telemetry`
-/

namespace RegistryBridge

namespace Marks

/-- What every annotation of the bridge begins with. -/
def stem : String := "quay-registry-operator.redhatcop.redhat.io"

/-- The annotation of a build that the bridge has taken over. -/
def managed : String := stem ++ "/quay-registry-operator-managed"

/-- The annotation that says where the image of a build is to be imported. -/
def destination : String := stem ++ "/destination-imagestream"

/-- The annotation of a build whose image has been imported. -/
def imported : String := stem ++ "/destination-imagestreamtag-imported"

/-- What a mark that is on or off holds when it is on. -/
def on : String := "true"

/-- The finalizer that the bridge holds on a namespace. -/
def finalizer : String := "redhatcop.redhat.io/quayintegrations"

/-- The platform's annotation for the shown name of a project. -/
def displayName : String := "openshift.io/display-name"

/-- The platform's annotation for the description of a project. -/
def description : String := "openshift.io/description"

/-- The platform's annotation that a project has been set up. -/
def setUp : String := "openshift.io/sa.scc.mcs"

end Marks

namespace Settings

/-- The name under which the bridge writes fields. -/
def fieldManager : String := "quay-bridge-operator"

/-- The name under which the bridge reports events. -/
def controller : String := "quay-bridge-operator"

/-- The variable that leaves only the webhook running. -/
def webhookOnlyVariable : String := "WEBHOOK_ONLY_MODE"

/-- The variable that leaves the webhook out. -/
def noWebhookVariable : String := "DISABLE_WEBHOOK"

/-- The certificate of the webhook. -/
def certificateFile : String := "/etc/webhook/certs/cert.pem"

/-- The key of the webhook's certificate. -/
def keyFile : String := "/etc/webhook/certs/key.pem"

/-- Where the webhook answers. -/
def webhookPath : String := "/admissionwebhook"

/-- Where the webhook tells that it is alive. -/
def healthPath : String := "/healthz"

/-- The port of the webhook with encryption. -/
def securePort : Nat := 8443

/-- The port of the webhook without encryption. -/
def plainPort : Nat := 8080

/-- Which log lines are written. -/
def logFilter : String := "info,quay_bridge=debug,kube=info,tower=warn,hyper=warn"

/-- Seconds after which a bridged namespace is looked at again. -/
def resyncSeconds : Nat := 600

end Settings

/-- Which parts of the bridge run. -/
structure Mode where
  webhookOnly : Bool
  webhookDisabled : Bool
  deriving DecidableEq, Repr, Inhabited

namespace Mode

/-- The mode that the environment asks for; a variable counts when it is set, whatever it holds. -/
def ofVariables (isSet : String → Bool) : Mode :=
  ⟨isSet Settings.webhookOnlyVariable, isSet Settings.noWebhookVariable⟩

/-- Whether the reconcilers run. -/
def runsReconcilers (m : Mode) : Bool := !m.webhookOnly

/-- Whether the webhook runs. -/
def runsWebhook (m : Mode) : Bool := !m.webhookDisabled

end Mode

/-- The address that the webhook listens on. -/
def listenAddress (secure : Bool) : String :=
  "0.0.0.0:" ++ toString (if secure then Settings.securePort else Settings.plainPort)

/-- What is said when the certificate of the webhook cannot be read because there is none. -/
def missingCertificate (certificate key : String) : String :=
  "failed to load TLS material from " ++ certificate ++ " / " ++ key ++
    ": failed to read from file `" ++ certificate ++ "`: No such file or directory (os error 2)"

/-- Where traces are sent, and under which name. -/
structure Telemetry where
  serviceName : String := "quay-bridge-operator"
  endpoint : Option String := none
  deriving DecidableEq, Repr, Inhabited

end RegistryBridge
