import AuthRedirect.AuthServer
import AuthRedirect.Organization
import AuthRedirect.Provisioning

/-!
Edits of the metadata of an organization. A new website brings a derived auth
server URL with it; an auth server URL that is edited in the same go wins. When
the URL in effect has changed, the rules that it needs are provisioned.
-/

namespace AuthRedirect

open AuthRedirect.Text

/-- What an edit does to one field. -/
inductive Change (α : Type) where
  | keep
  | set (value : α)
deriving DecidableEq, Repr

/-- The value of a field after a change. -/
def Change.apply (change : Change α) (old : α) : α :=
  match change with
  | .keep => old
  | .set value => value

/-- An edit of the metadata. -/
structure MetadataEdit where
  website : Change (Option String) := .keep
  authServerUrl : Change (Option String) := .keep
deriving DecidableEq, Repr

namespace MetadataEdit

/-- The website that an edit brings, if it is another one than before. -/
def newWebsite? (edit : MetadataEdit) (organization : Organization) : Option (Option String) :=
  match edit.website with
  | .keep => none
  | .set website => if website = organization.website then none else some website

/-- The organization after the edit of its website. -/
def withWebsite (settings : Settings) (edit : MetadataEdit) (organization : Organization) :
    Organization :=
  match edit.newWebsite? organization with
  | none => organization
  | some website =>
      { organization with
        website := website
        authServerUrl :=
          AuthServer.derive settings website organization.authServerUrl organization.website }

/-- The organization after the edit of both fields, before rules are added. -/
def withFields (settings : Settings) (edit : MetadataEdit) (organization : Organization) :
    Organization :=
  let updated := edit.withWebsite settings organization
  { updated with authServerUrl := edit.authServerUrl.apply updated.authServerUrl }

/-- The auth server URL that rules are provisioned for: the one in effect, if it
is not empty and another one than before. -/
def urlToProvision? (settings : Settings) (edit : MetadataEdit) (organization : Organization) :
    Option String :=
  match (edit.withFields settings organization).authServerUrl with
  | none => none
  | some url => if url.isEmpty || organization.authServerUrl = some url then none else some url

/-- The organization after the edit. -/
def apply (settings : Settings) (edit : MetadataEdit) (organization : Organization) :
    Organization :=
  let updated := edit.withFields settings organization
  { updated with
    redirectionRules :=
      Provisioning.provision settings organization.redirectionRules
        (edit.urlToProvision? settings organization) }

/-- What is reported about the edit. -/
def notices (settings : Settings) (edit : MetadataEdit) (organization : Organization) :
    List Log.Notice :=
  AuthServer.notices settings ((edit.newWebsite? organization).getD none) ++
    Provisioning.notices settings organization.redirectionRules
      (edit.urlToProvision? settings organization)

end MetadataEdit

end AuthRedirect
