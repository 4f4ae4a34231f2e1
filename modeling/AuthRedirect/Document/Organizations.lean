import AuthRedirect.Document.Rules
import AuthRedirect.Organization

/-!
Organizations as they are stored. Their rules are read like stored rules; the
rest of the object is read as it stands. What is written leaves out every member
of the organization and of its roles that has its default value.
-/

namespace AuthRedirect

open Json

/-! ## Reading -/

/-- Whether an object has a member. -/
def Json.hasMember (name : String) (members : Members) : Bool :=
  members.any fun member => member.1 == name

/-- A record from an object that has to have the given member. -/
def Json.requiring (field : String) (members : Members) (checked : Checked α) : Checked α := do
  let record ← checked
  if Json.hasMember field members then return record
  else .error ⟨.missing field, []⟩

/-- A role with one more member of its object. -/
def Role.assign (role : Role) (name : String) (value : Json) : Checked Role :=
  match name with
  | "slug" => do
      let slug ← asStr value
      return { role with slug := slug }
  | "name" => do
      let shown ← asStrOrNull value
      return { role with name := shown }
  | "isDefault" => do
      let isDefault ← asBool value
      return { role with isDefault := isDefault }
  | "isSystem" => do
      let isSystem ← asBool value
      return { role with isSystem := isSystem }
  | "showOnSignup" => do
      let showOnSignup ← asBool value
      return { role with showOnSignup := showOnSignup }
  | _ => .ok role

/-- The role that an object stands for. -/
def Role.ofJson : Json → Checked Role
  | .obj members =>
      requiring "slug" members (fill Role.assign ⟨"", none, false, false, false⟩ members)
  | other => wrongKind .obj other

/-- An organization with one more member of its object. -/
def Organization.assign (organization : Organization) (name : String) (value : Json) :
    Checked Organization :=
  match name with
  | "id" => do
      let id ← asStr value
      return { organization with id := id }
  | "website" => do
      let website ← asStrOrNull value
      return { organization with website := website }
  | "authServerUrl" => do
      let authServerUrl ← asStrOrNull value
      return { organization with authServerUrl := authServerUrl }
  | "roles" => do
      let roles ← asList Role.ofJson value
      return { organization with roles := roles }
  | "redirectionRules" => do
      let rules ← asList Rule.ofJson value
      return { organization with redirectionRules := rules }
  | _ => .ok organization

/-- The organization that an object stands for. -/
def Organization.ofJson : Json → Checked Organization
  | .obj members =>
      requiring "id" members (fill Organization.assign ⟨"", none, none, [], []⟩ members)
  | other => wrongKind .obj other

/-! ## Writing -/

/-- A member that is left out when its value is the default. -/
def Json.unless (isDefault : Bool) (name : String) (value : Json) : Members :=
  if isDefault then [] else [(name, value)]

/-- A string that may be missing. -/
def Json.ofText? : Option String → Json
  | some text => .str text
  | none => .null

/-- A role as an object. -/
def Role.toJson (role : Role) : Json :=
  .obj <|
    [("slug", .str role.slug)] ++
    Json.unless role.name.isNone "name" (Json.ofText? role.name) ++
    Json.unless (!role.isDefault) "isDefault" (.bool role.isDefault) ++
    Json.unless (!role.isSystem) "isSystem" (.bool role.isSystem) ++
    Json.unless (!role.showOnSignup) "showOnSignup" (.bool role.showOnSignup)

/-- An organization as an object. -/
def Organization.toJson (organization : Organization) : Json :=
  .obj <|
    [("id", .str organization.id)] ++
    Json.unless organization.website.isNone "website" (Json.ofText? organization.website) ++
    Json.unless organization.authServerUrl.isNone "authServerUrl"
      (Json.ofText? organization.authServerUrl) ++
    Json.unless organization.roles.isEmpty "roles" (.arr (organization.roles.map Role.toJson)) ++
    Json.unless organization.redirectionRules.isEmpty "redirectionRules"
      (.arr (organization.redirectionRules.map Rule.toJson))

namespace Document

/-- The organization of a document. -/
def decodeOrganization (s : Text.RawText) : Except DecodeError Organization := do
  let value ← parse .organization s
  ofChecked .organization (Organization.ofJson value)

/-- The document of an organization. -/
def encodeOrganization (organization : Organization) : String :=
  organization.toJson.documentText

end Document

end AuthRedirect
