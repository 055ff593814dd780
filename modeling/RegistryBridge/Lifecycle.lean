import RegistryBridge.Cluster.Build
import RegistryBridge.Cluster.Namespace
import RegistryBridge.Settings
/-!
# How far the bridge has come with an object

## Main definitions

* `NamespacePhase`, `NamespacePhase.of`
* `BuildPhase`, `BuildPhase.of`
-/

namespace RegistryBridge

/-- How far the bridge has come with a namespace. -/
inductive NamespacePhase where
  /-- The policy leaves it alone. -/
  | unmanaged
  /-- The platform has not set it up yet. -/
  | initializing
  /-- It is to be bridged. -/
  | pending
  /-- It is bridged. -/
  | managed
  /-- It is being deleted and waits for the bridge. -/
  | terminating
  /-- It is being deleted and does not wait for the bridge. -/
  | gone
  deriving DecidableEq, Repr, Inhabited

namespace NamespacePhase

/-- Whether a namespace is a project that the platform has not set up yet: it has the project's texts
but not the mark that comes with the set-up. -/
def isUnready (n : Namespace) : Bool :=
  n.metadata.noted Marks.displayName && n.metadata.noted Marks.description &&
    !n.metadata.noted Marks.setUp

/-- **The phase of a namespace.** Deletion counts before the policy does. -/
def of (n : Namespace) (allowed : Bool) : NamespacePhase :=
  let held := n.metadata.finalizedBy Marks.finalizer
  if n.metadata.deleting then if held then .terminating else .gone
  else if ¬ allowed then .unmanaged
  else if held then .managed
  else if isUnready n then .initializing
  else .pending

/-- Whether the registry is called in a phase. -/
def needsRegistry : NamespacePhase → Bool
  | .managed | .terminating => true
  | _ => false

/-- The name of a phase. -/
def name : NamespacePhase → String
  | .unmanaged => "Unmanaged"
  | .initializing => "Initializing"
  | .pending => "PendingFinalizer"
  | .managed => "Managed"
  | .terminating => "Terminating"
  | .gone => "Gone"

end NamespacePhase

/-- How far the bridge has come with a build. -/
inductive BuildPhase where
  /-- The bridge has not taken it over. -/
  | unmanaged
  /-- It has not pushed its image yet. -/
  | pending
  /-- Its image can be imported. -/
  | ready
  /-- Its image has been imported. -/
  | imported
  deriving DecidableEq, Repr, Inhabited

namespace BuildPhase

/-- **The phase of a build.** -/
def of (b : Build) : BuildPhase :=
  if ¬ b.metadata.noted Marks.managed then .unmanaged
  else if b.metadata.noted Marks.imported then .imported
  else if b.complete then .ready
  else .pending

/-- The name of a phase. -/
def name : BuildPhase → String
  | .unmanaged => "Unmanaged"
  | .pending => "Pending"
  | .ready => "ReadyToImport"
  | .imported => "Imported"

end BuildPhase

end RegistryBridge
