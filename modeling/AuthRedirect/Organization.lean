import AuthRedirect.Rule

/-!
Organizations, as far as redirection needs them.
-/

namespace AuthRedirect

/-- A role that an organization defines. -/
structure Role where
  slug : String
  name : Option String := none
  isDefault : Bool := false
  isSystem : Bool := false
  showOnSignup : Bool := false
deriving DecidableEq, Repr

/-- An organization with its metadata and its redirection rules in order. -/
structure Organization where
  id : String
  website : Option String := none
  authServerUrl : Option String := none
  roles : List Role := []
  redirectionRules : List Rule := []
deriving DecidableEq, Repr

/-- The slugs of the roles that the organization defines. -/
def Organization.roleSlugs (organization : Organization) : List String :=
  organization.roles.map (·.slug)

end AuthRedirect
