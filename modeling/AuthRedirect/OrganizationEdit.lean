import AuthRedirect.Document.Organizations
import AuthRedirect.Metadata
import AuthRedirect.RuleSet

/-!
The edits that an organization goes through in the console. An edit that fails
leaves the organization as it was.
-/

namespace AuthRedirect

/-- An edit of an organization. -/
inductive OrganizationEdit where
  | metadata (edit : MetadataEdit)
  | provision (authServerUrl : Option String)
  | removeRule (index : Int)
  | enforceSingleDefault (environment roleSlug url : String)
  /-- The rules are written and read again. -/
  | recode
  | addRule (rule : Rule)
deriving DecidableEq, Repr

namespace OrganizationEdit

/-- Why an edit fails. -/
inductive Failure where
  | removal (error : RuleSet.RemovalError)
  | decode (error : Document.DecodeError)
deriving DecidableEq, Repr

/-- The message of a failure. -/
def Failure.message : Failure → String
  | .removal error => error.message
  | .decode error => error.message

/-- The organization after an edit. -/
def attempt (settings : Settings) (organization : Organization) :
    OrganizationEdit → Except Failure Organization
  | .metadata edit => .ok (edit.apply settings organization)
  | .provision authServerUrl =>
      .ok { organization with
        redirectionRules :=
          Provisioning.provision settings organization.redirectionRules authServerUrl }
  | .removeRule index => do
      let rules ← (RuleSet.remove organization.redirectionRules index).mapError Failure.removal
      return { organization with redirectionRules := rules }
  | .enforceSingleDefault environment roleSlug url =>
      .ok { organization with
        redirectionRules :=
          RuleSet.enforceSingleDefault organization.redirectionRules environment roleSlug url }
  | .recode => do
      let written := Document.encodeRules organization.redirectionRules
      let rules ← (Document.decodeRules (Text.rawText written)).mapError Failure.decode
      return { organization with redirectionRules := rules }
  | .addRule rule =>
      .ok { organization with redirectionRules := organization.redirectionRules ++ [rule] }

/-- The organization after an edit, or as it was when the edit fails. -/
def apply (settings : Settings) (organization : Organization) (edit : OrganizationEdit) :
    Organization :=
  match edit.attempt settings organization with
  | .ok edited => edited
  | .error _ => organization

/-- The organization after a run of edits. -/
def run (settings : Settings) (organization : Organization) (edits : List OrganizationEdit) :
    Organization :=
  edits.foldl (apply settings) organization

/-- What is reported about an edit. -/
def notices (settings : Settings) (organization : Organization) :
    OrganizationEdit → List Log.Notice
  | .metadata edit => edit.notices settings organization
  | .provision authServerUrl =>
      Provisioning.notices settings organization.redirectionRules authServerUrl
  | _ => []

end OrganizationEdit

end AuthRedirect
