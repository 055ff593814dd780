import RegistryBridge.Proofs.Cluster.Documents
import RegistryBridge.Registry.Payload
/-!
# Documents that are exchanged

The bridge reads documents of the cluster and of the registry and writes such documents itself. Some
of what it reads may be written in several ways: an entry may be null or missing, an object may have
entries that nobody knows, and a record may be a list of its fields. What has been read once and
written again is settled: it is an object of known entries, and is read as what it was written for.

## Main definitions

* `Exchanged`: the types whose documents are exchanged, each with its reader and its writer.
* `Exchanged.Plain`: the values that documents may stand for.
* `Exchanged.Keeps`: what is kept as it is, without being looked into.

## Main results

* `Exchanged.settled`
-/

namespace RegistryBridge

open Json (Field Record Reader Returned)

/-! ## Objects of the registry -/

namespace Registry

theorem Organization.returned (o : Organization) : Returned ofJson ["name"] o.toJson o :=
  ((Record.Returns.of Organization.mk).field
      (Field.returns_withDefault "name" "" (Reader.text_text o.name)))
    |>.returned (by decide)

theorem Robot.returned (r : Robot) :
    Returned ofJson ["name", "token", "description", "created", "last_accessed"] r.toJson r :=
  ((Record.Returns.of Robot.mk).field
      (Field.returns_withDefault "name" "" (Reader.text_text r.name)))
    |>.field (Field.returns_withDefault "token" "" (Reader.text_text r.token))
    |>.field (Field.returns_withDefault "description" "" (Reader.text_text r.description))
    |>.field (Field.returns_ofText? "created" r.created)
    |>.field (Field.returns_ofText? "last_accessed" r.lastAccessed)
    |>.returned (by decide)

theorem Delegate.returned (d : Delegate) :
    Returned ofJson ["kind", "name", "is_robot", "is_org_member"] d.toJson d :=
  ((Record.Returns.of Delegate.mk).field
      (Field.returns_withDefault "kind" "" (Reader.text_text d.kind)))
    |>.field (Field.returns_withDefault "name" "" (Reader.text_text d.name))
    |>.field (Field.returns_withDefault "is_robot" false (Reader.bool_bool d.isRobot))
    |>.field (Field.returns_withDefault "is_org_member" false (Reader.bool_bool d.isMember))
    |>.returned (by decide)

/-- A prototype without an identity is written without one. -/
theorem Prototype.returned (p : Prototype) :
    Returned ofJson ["id", "role", "delegate"] p.toJson p :=
  ((Record.Returns.of Prototype.mk).field (Field.returns_textUnlessEmpty "id" p.id))
    |>.field (Field.returns_required "role" (Reader.text_text p.role))
    |>.field (Field.returns_required "delegate" p.delegate.returned.back)
    |>.returned (by decide)

theorem Prototypes.returned (p : Prototypes) : Returned ofJson ["prototypes"] p.toJson p :=
  ((Record.Returns.of Prototypes.mk).field
      (Field.returns_withDefault "prototypes" []
        (Json.list_map (fun prototype => prototype.returned.back) p.list)))
    |>.returned (by decide)

theorem Repository.returned (r : Repository) :
    Returned ofJson ["name", "namespace", "description", "is_public"] r.toJson r :=
  ((Record.Returns.of Repository.mk).field
      (Field.returns_withDefault "name" "" (Reader.text_text r.name)))
    |>.field (Field.returns_withDefault "namespace" "" (Reader.text_text r.ns))
    |>.field (Field.returns_ofText? "description" r.description)
    |>.field (Field.returns_withDefault "is_public" false (Reader.bool_bool r.isPublic))
    |>.returned (by decide)

end Registry

/-! ## What is exchanged -/

/-- **The types whose documents are exchanged** with the cluster and the registry. -/
inductive Exchanged where
  | secretKey
  | integrationSpec
  | buildSpec
  | buildStatus
  | imageStreamSpec
  | importSpec
  | importStatus
  | organization
  | robot
  | prototype
  | prototypes
  | repository
  deriving DecidableEq, Repr

namespace Exchanged

/-- The values of a type. -/
def Value : Exchanged → Type
  | secretKey => SecretKey
  | integrationSpec => IntegrationSpec
  | buildSpec => BuildSpec
  | buildStatus => BuildStatus
  | imageStreamSpec => ImageStreamSpec
  | importSpec => ImageStreamImportSpec
  | importStatus => ImageStreamImportStatus
  | organization => Registry.Organization
  | robot => Registry.Robot
  | prototype => Registry.Prototype
  | prototypes => Registry.Prototypes
  | repository => Registry.Repository

/-- The entries that a document may have, in order. -/
def names : Exchanged → List String
  | secretKey => ["name", "namespace", "key"]
  | integrationSpec =>
    ["clusterID", "credentialsSecret", "organizationPrefix", "quayHostname", "insecureRegistry",
      "scheduledImageStreamImport", "denylistNamespaces", "allowlistNamespaces"]
  | buildSpec => ["strategy", "output"]
  | buildStatus => ["phase"]
  | imageStreamSpec => ["dockerImageRepository"]
  | importSpec => ["import", "images"]
  | importStatus => ["images"]
  | organization => ["name"]
  | robot => ["name", "token", "description", "created", "last_accessed"]
  | prototype => ["id", "role", "delegate"]
  | prototypes => ["prototypes"]
  | repository => ["name", "namespace", "description", "is_public"]

/-- How documents are read. -/
def read : (t : Exchanged) → Reader t.Value
  | secretKey => SecretKey.ofJson
  | integrationSpec => IntegrationSpec.ofJson
  | buildSpec => BuildSpec.ofJson
  | buildStatus => BuildStatus.ofJson
  | imageStreamSpec => ImageStreamSpec.ofJson
  | importSpec => ImageStreamImportSpec.ofJson
  | importStatus => ImageStreamImportStatus.ofJson
  | organization => Registry.Organization.ofJson
  | robot => Registry.Robot.ofJson
  | prototype => Registry.Prototype.ofJson
  | prototypes => Registry.Prototypes.ofJson
  | repository => Registry.Repository.ofJson

/-- How values are written. -/
def write : (t : Exchanged) → t.Value → Json
  | secretKey => SecretKey.toJson
  | integrationSpec => IntegrationSpec.toJson
  | buildSpec => BuildSpec.toJson
  | buildStatus => BuildStatus.toJson
  | imageStreamSpec => ImageStreamSpec.toJson
  | importSpec => ImageStreamImportSpec.toJson
  | importStatus => ImageStreamImportStatus.toJson
  | organization => Registry.Organization.toJson
  | robot => Registry.Robot.toJson
  | prototype => Registry.Prototype.toJson
  | prototypes => Registry.Prototypes.toJson
  | repository => Registry.Repository.toJson

/-- **The values that documents may stand for**: an option of a build's strategy is never null. -/
def Plain : (t : Exchanged) → t.Value → Prop
  | buildSpec, (spec : BuildSpec) => spec.strategy.Plain
  | _, _ => True

/-- **What is kept as it is**, from a document that has been read to the one that is written: the
options of a build's strategy that are not null, and the entries of an import's status. -/
def Keeps : Exchanged → (document written : Json) → Prop
  | buildSpec, document, written => ∀ key, key = "dockerStrategy" ∨ key = "sourceStrategy" →
    BuildSpec.option? written key = (BuildSpec.option? document key).filter (· ≠ .null)
  | importStatus, document, written =>
    written.fieldOf? importStatus.names "images" =
      (document.fieldOf? importStatus.names "images").filter (· ≠ .list [])
  | _, _, _ => True

variable {t : Exchanged} {document : Json} {value : t.Value}

theorem plain_of_read (read : t.read document = .ok value) : t.Plain value := by
  cases t with
  | buildSpec => exact BuildSpec.plain_of_ofJson read
  | _ => trivial

theorem keeps_of_read (read : t.read document = .ok value) : t.Keeps document (t.write value) := by
  cases t with
  | buildSpec => exact fun key => BuildSpec.option?_toJson read
  | importStatus => exact ImageStreamImportStatus.images_of_ofJson read
  | _ => trivial

theorem Plain.returned (plain : t.Plain value) : Returned t.read t.names (t.write value) value := by
  cases t with
  | secretKey => exact SecretKey.returned value
  | integrationSpec => exact IntegrationSpec.returned value
  | buildSpec => exact BuildSpec.returned plain
  | buildStatus => exact BuildStatus.returned value
  | imageStreamSpec => exact ImageStreamSpec.returned value
  | importSpec => exact ImageStreamImportSpec.returned value
  | importStatus => exact ImageStreamImportStatus.returned value
  | organization => exact Registry.Organization.returned value
  | robot => exact Registry.Robot.returned value
  | prototype => exact Registry.Prototype.returned value
  | prototypes => exact Registry.Prototypes.returned value
  | repository => exact Registry.Repository.returned value

/-- **What has been read once is settled.** The document that is written for a value that has been
read, from whatever document, is read as that value. It is an object of known entries, each of them
once and in order, and holds as they were the parts that are not looked into. And every value that
documents may stand for is read from the one that is written for it. -/
theorem settled (t : Exchanged) :
    (∀ document value, t.read document = .ok value →
      t.read (t.write value) = .ok value ∧
        (∃ fields, t.write value = .object fields ∧ (fields.map Prod.fst).Sublist t.names) ∧
          t.Keeps document (t.write value)) ∧
      ∀ value, t.Plain value → t.read (t.write value) = .ok value := by
  refine ⟨fun document value read => ?_, fun value plain => plain.returned.back⟩
  have returned := (plain_of_read read).returned
  exact ⟨returned.back, returned.known, keeps_of_read read⟩

/-- A spec that is a list of its fields, with an option, a null, and an entry that nobody knows. -/
theorem buildSpec_settled :
    let document : Json := .list [.object [("type", .text "Docker"), ("hint", .bool true),
      ("dockerStrategy", .object [("noCache", .null)]), ("sourceStrategy", .null)]]
    let spec : BuildSpec :=
      { strategy := { kind := some "Docker", dockerStrategy := some (.object [("noCache", .null)]) } }
    buildSpec.read document = .ok spec ∧ buildSpec.read (buildSpec.write spec) = .ok spec ∧
      BuildSpec.option? (buildSpec.write spec) "dockerStrategy" =
        some (.object [("noCache", .null)]) := by
  intro document spec
  have read : buildSpec.read document = .ok spec := by rfl
  obtain ⟨back, -, keeps⟩ := (settled buildSpec).1 document spec read
  exact ⟨read, back, (keeps "dockerStrategy" (.inl rfl)).trans (by rfl)⟩

end Exchanged

end RegistryBridge
