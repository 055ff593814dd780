import RegistryBridge.Cluster.ImageStream
import RegistryBridge.Json.Printer
/-!
# Objects of the registry

An organization has robots that act for it, repositories, and prototypes: the permissions that every
new repository grants from the start.

## Main definitions

* `Registry.Organization`, `Registry.Robot`, `Registry.Prototype`, `Registry.Repository`
* `Registry.Role`
* `Registry.Prototypes.grants`: whether a robot has a role by some prototype.
* `Registry.Response`: the status of an answer, and its content if there is one.
-/

namespace RegistryBridge.Registry

open Json (Field Record Reader)

/-- What a robot may do with a repository. -/
inductive Role where
  | admin
  | read
  | write
  deriving DecidableEq, Repr, Inhabited

namespace Role

/-- The word for a role. -/
def text : Role → String
  | .admin => "admin"
  | .read => "read"
  | .write => "write"

/-- The role of a word. -/
def named : String → Option Role
  | "admin" => some .admin
  | "read" => some .read
  | "write" => some .write
  | _ => none

/-- Reads a role. -/
def ofJson : Reader Role :=
  Reader.variant named ["admin", "read", "write"]

end Role

/-- An organization. -/
structure Organization where
  name : String := ""
  deriving DecidableEq, Repr, Inhabited

/-- A robot of an organization. -/
structure Robot where
  name : String := ""
  token : String := ""
  description : String := ""
  created : Option String := none
  lastAccessed : Option String := none
  deriving DecidableEq, Repr, Inhabited

/-- Whom a prototype gives its role to. -/
structure Delegate where
  kind : String := ""
  name : String := ""
  isRobot : Bool := false
  isMember : Bool := false
  deriving DecidableEq, Repr, Inhabited

/-- A permission that every new repository grants. -/
structure Prototype where
  id : String := ""
  role : String
  delegate : Delegate
  deriving DecidableEq, Repr, Inhabited

/-- The prototypes of an organization. -/
structure Prototypes where
  list : List Prototype := []
  deriving DecidableEq, Repr, Inhabited

/-- A repository. -/
structure Repository where
  name : String := ""
  ns : String := ""
  description : Option String := none
  isPublic : Bool := false
  deriving DecidableEq, Repr, Inhabited

/-- The status of an answer, and its content if there is one. -/
structure Response (α : Type) where
  status : Nat
  body : Option α := none
  deriving DecidableEq, Repr, Inhabited

/-- Whether an answer is a success. -/
def Response.isSuccess {α : Type} (r : Response α) : Bool :=
  200 ≤ r.status && r.status < 300

namespace Organization

/-- Reads an organization. -/
def ofJson : Reader Organization :=
  ((Record.of Organization.mk).field (.withDefault "name" Reader.text "")).read "Organization"

/-- Writes an organization. -/
def toJson (o : Organization) : Json :=
  .object [("name", .text o.name)]

end Organization

namespace Robot

/-- Reads a robot. -/
def ofJson : Reader Robot :=
  ((Record.of Robot.mk)
    |>.field (.withDefault "name" Reader.text "")
    |>.field (.withDefault "token" Reader.text "")
    |>.field (.withDefault "description" Reader.text "")
    |>.field (.optional "created" Reader.text)
    |>.field (.optional "last_accessed" Reader.text)).read "RobotAccount"

/-- Writes a robot. -/
def toJson (r : Robot) : Json :=
  .object [
    ("name", .text r.name),
    ("token", .text r.token),
    ("description", .text r.description),
    ("created", Json.ofText? r.created),
    ("last_accessed", Json.ofText? r.lastAccessed)]

/-- What stands in logs for a robot: its token does not show. -/
def logText (r : Robot) : String :=
  "RobotAccount \x7b name: " ++ Text.quoted r.name ++ ", token: \"<redacted>\", description: " ++
    Text.quoted r.description ++ " \x7d"

/-- Whether the token does not occur in what stands in logs. -/
def logHidesToken (r : Robot) : Bool :=
  r.token = "" || !Text.occursIn r.token.toList r.logText.toList

end Robot

namespace Delegate

/-- Reads a delegate. -/
def ofJson : Reader Delegate :=
  ((Record.of Delegate.mk)
    |>.field (.withDefault "kind" Reader.text "")
    |>.field (.withDefault "name" Reader.text "")
    |>.field (.withDefault "is_robot" Reader.bool false)
    |>.field (.withDefault "is_org_member" Reader.bool false)).read "PrototypeDelegate"

/-- Writes a delegate. -/
def toJson (d : Delegate) : Json :=
  .object [
    ("kind", .text d.kind),
    ("name", .text d.name),
    ("is_robot", .bool d.isRobot),
    ("is_org_member", .bool d.isMember)]

end Delegate

namespace Prototype

/-- The prototype that gives a robot a role. -/
def forRobot (robot : String) (role : Role) : Prototype :=
  { role := role.text
    delegate := { kind := "user", name := robot, isRobot := true, isMember := true } }

/-- Reads a prototype. -/
def ofJson : Reader Prototype :=
  ((Record.of Prototype.mk)
    |>.field (.withDefault "id" Reader.text "")
    |>.field (.required "role" Reader.text)
    |>.field (.required "delegate" Delegate.ofJson)).read "Prototype"

/-- Writes a prototype. -/
def toJson (p : Prototype) : Json :=
  Json.record [
    if p.id = "" then none else some ("id", .text p.id),
    some ("role", .text p.role),
    some ("delegate", p.delegate.toJson)]

/-- Whether a prototype gives a robot a role. -/
def gives (p : Prototype) (robot : String) (role : Role) : Bool :=
  p.role == role.text && p.delegate.isRobot && p.delegate.name == robot

end Prototype

namespace Prototypes

/-- Reads the prototypes of an organization. -/
def ofJson : Reader Prototypes :=
  ((Record.of Prototypes.mk).field
    (.withDefault "prototypes" (Reader.list Prototype.ofJson) [])).read "PrototypesResponse"

/-- Writes the prototypes of an organization. -/
def toJson (p : Prototypes) : Json :=
  .object [("prototypes", .list (p.list.map Prototype.toJson))]

/-- **Whether a robot has a role by some prototype.** -/
def grants (p : Prototypes) (robot : String) (role : Role) : Bool :=
  p.list.any fun prototype => prototype.gives robot role

end Prototypes

namespace Repository

/-- Reads a repository. -/
def ofJson : Reader Repository :=
  ((Record.of Repository.mk)
    |>.field (.withDefault "name" Reader.text "")
    |>.field (.withDefault "namespace" Reader.text "")
    |>.field (.optional "description" Reader.text)
    |>.field (.withDefault "is_public" Reader.bool false)).read "Repository"

/-- Writes a repository. -/
def toJson (r : Repository) : Json :=
  .object [
    ("name", .text r.name),
    ("namespace", .text r.ns),
    ("description", Json.ofText? r.description),
    ("is_public", .bool r.isPublic)]

end Repository

/-! ## What is sent to make an object -/

/-- The document that asks for an organization; without an address none is written. -/
def organizationRequest (name email : String) : Json :=
  Json.record [
    some ("name", .text name),
    if email = "" then none else some ("email", .text email)]

/-- The address that an organization is made with. -/
def organizationEmail (name : String) : String :=
  name ++ "@redhat.com"

/-- The document that asks for a private repository of images. -/
def repositoryRequest (organization name : String) : Json :=
  .object [
    ("namespace", .text organization),
    ("repository", .text name),
    ("visibility", .text "private"),
    ("description", .text ""),
    ("repo_kind", .text "image")]

end RegistryBridge.Registry
