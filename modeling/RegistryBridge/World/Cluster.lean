import RegistryBridge.World.Basic
/-!
# An honest cluster

## Main definitions

* `ClusterStore.answer`: the answer to a call, and what is stored then.
* `noteDocument`: a stored document with an annotation set.
-/

namespace RegistryBridge

/-- The value under a key, an empty object where there is none. -/
def Json.childOrEmpty (document : Json) (key : String) : Json :=
  match document.get? key with
  | some (.object fields) => .object fields
  | _ => .object []

/-- The stored document of an object with an annotation set. -/
def noteDocument (document : Json) (key value : String) : Json :=
  let metadata := document.childOrEmpty "metadata"
  let annotations := metadata.childOrEmpty "annotations"
  document.set "metadata" (metadata.set "annotations" (annotations.set key (.text value)))

namespace ClusterStore

/-- A namespace with other finalizers. -/
def refinalized (n : Namespace) (finalizers : List String) : Namespace :=
  { n with metadata := { n.metadata with finalizers := some finalizers } }

/-- The namespaces with a finalizer held on one of them, if it is there. -/
def held (store : ClusterStore) (name finalizer : String) : ClusterStore :=
  match store.namespaces.get? name with
  | some n =>
    let n := refinalized n (Finalizers.hold n.metadata.finalizerList finalizer)
    { store with namespaces := store.namespaces.insert name n }
  | none => store

/-- The namespaces with a finalizer released on one of them, if it is there. -/
def released (store : ClusterStore) (name finalizer : String) : ClusterStore :=
  match store.namespaces.get? name with
  | some n =>
    let n := refinalized n (Finalizers.release n.metadata.finalizerList finalizer)
    { store with namespaces := store.namespaces.insert name n }
  | none => store

/-- The service accounts with one of them linked, made if it is not there. -/
def linked (store : ClusterStore) (ns name : String) (links : SecretLinks) : ClusterStore :=
  let key := qualified ns name
  let account := (store.serviceAccounts.get? key).getD
    { metadata := { name := some name, ns := some ns } }
  { store with serviceAccounts := store.serviceAccounts.insert key (account.withLinks links) }

/-- The builds with an annotation set on one of them, if it is there. -/
def noted (store : ClusterStore) (ns name key value : String) : ClusterStore :=
  match store.builds.get? (qualified ns name) with
  | some document =>
    { store with
      builds := store.builds.insert (qualified ns name) (noteDocument document key value) }
  | none => store

/-- **The answer to a call**, and what is stored then. -/
def answer (store : ClusterStore) : (call : ClusterCall) → call.Value × ClusterStore
  | .listIntegrations => (store.integrations, store)
  | .getSecret ns name => (store.secrets.get? (qualified ns name), store)
  | .applySecret secret =>
    ((), { store with secrets := store.secrets.insert secret.metadata.key secret })
  | .getServiceAccount ns name => (store.serviceAccounts.get? (qualified ns name), store)
  | .linkServiceAccount ns name links => ((), store.linked ns name links)
  | .listImageStreams ns =>
    (store.imageStreams.filter fun stream => stream.metadata.ns == some ns, store)
  | .holdFinalizer name finalizer => ((), store.held name finalizer)
  | .releaseFinalizer name finalizer => ((), store.released name finalizer)
  | .getImageStream ns name =>
    (store.imageStreams.find? fun stream =>
      stream.metadata.ns == some ns && stream.metadata.name == some name, store)
  | .createImport _ => ((), store)
  | .noteBuild ns name key value => ((), store.noted ns name key value)
  | .reportStatus .. => ((), store)

end ClusterStore

end RegistryBridge
