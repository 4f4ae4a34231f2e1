import AuthRedirect.Metadata
import AuthRedirect.Resolution
import AuthRedirect.Store.Basic
import AuthRedirect.Validation

/-!
The service that works on stored rule sets. Rules are checked before they are
written; a step that fails leaves the repository as it was.
-/

namespace AuthRedirect.Service

open AuthRedirect.Validation

/-- One request to the service or to its repository. -/
inductive Step where
  | get (organization : String)
  | put (organization : String) (rules : List Rule)
  | contains (organization : String)
  | updateMetadata (organization : Organization) (edit : MetadataEdit)
  | saveRules (organization : Organization) (isNewOrganization : Bool)
  | resolve (organization : String) (login : Login) (roles : Option (List String))
deriving DecidableEq, Repr

/-- Why a request fails. -/
inductive Failure where
  | repository (error : RepositoryError)
  /-- The rules have errors, which are listed. -/
  | rejected (errors : List Issue)
deriving DecidableEq, Repr

/-- The message of a failure. -/
def Failure.message : Failure → String
  | .repository error => error.message
  | .rejected errors => refusal (errors.map Issue.summary)

/-- What a request gives back. -/
inductive Answer where
  | rules (rules : List Rule)
  | done
  | isStored (stored : Bool)
  | organization (organization : Organization)
  | report (report : Report)
  | resolution (resolution : Resolution)
deriving DecidableEq, Repr

/-- The report on a rule set, unless it has errors. -/
def accept (report : Report) : Except Failure Report :=
  if report.ok then .ok report else .error (.rejected report.errors)

/-- The report on the rules of an organization. -/
def report (organization : Organization) (isNewOrganization : Bool) : Report :=
  validateRuleSet (some organization.roleSlugs) isNewOrganization organization.redirectionRules

/-- Writes the rules of an organization if they have no errors. -/
def saveRules (repository : Repository) (organization : Organization) (isNewOrganization : Bool) :
    Except Failure (Report × Repository) := do
  let report ← accept (report organization isNewOrganization)
  let written ←
    (repository.put organization.id organization.redirectionRules).mapError Failure.repository
  return (report, written)

/-- The organization with its stored rules instead of those that it brings. -/
def storedOrganization (repository : Repository) (organization : Organization) :
    Except Failure Organization := do
  let rules ← (repository.get organization.id).mapError Failure.repository
  return { organization with redirectionRules := rules }

/-- Edits the metadata of an organization with its stored rules, and writes the
rules if they have changed. -/
def updateMetadata (settings : Settings) (repository : Repository) (organization : Organization)
    (edit : MetadataEdit) : Except Failure (Organization × Repository) := do
  let stored ← storedOrganization repository organization
  let updated := edit.apply settings stored
  if updated.redirectionRules = stored.redirectionRules then return (updated, repository)
  else do
    let (_, written) ← saveRules repository updated false
    return (updated, written)

/-- What a request gives back, and the repository after it. -/
def attempt (settings : Settings) (repository : Repository) :
    Step → Except Failure (Answer × Repository)
  | .get organization => do
      let rules ← (repository.get organization).mapError Failure.repository
      return (.rules rules, repository)
  | .put organization rules => do
      let written ← (repository.put organization rules).mapError Failure.repository
      return (.done, written)
  | .contains organization => .ok (.isStored (repository.contains organization), repository)
  | .updateMetadata organization edit => do
      let (updated, written) ← updateMetadata settings repository organization edit
      return (.organization updated, written)
  | .saveRules organization isNewOrganization => do
      let (report, written) ← saveRules repository organization isNewOrganization
      return (.report report, written)
  | .resolve organization login roles => do
      let rules ← (repository.get organization).mapError Failure.repository
      return (.resolution (AuthRedirect.resolve settings roles rules login), repository)

/-- One request: its outcome, and the repository after it. A request that fails
changes nothing. -/
def step (settings : Settings) (repository : Repository) (step : Step) :
    Except Failure Answer × Repository :=
  match attempt settings repository step with
  | .ok (answer, after) => (.ok answer, after)
  | .error failure => (.error failure, repository)

/-- The repository after a run of requests. -/
def run (settings : Settings) (repository : Repository) (steps : List Step) : Repository :=
  steps.foldl (fun repository request => (step settings repository request).2) repository

/-! ## What is reported -/

/-- The notice of a rule set that was written. -/
def savedNotice (organization : Organization) (report : Report) : Log.Notice :=
  .rulesSaved organization.id organization.redirectionRules.length report.warnings.length

/-- What is reported about writing rules. -/
def saveNotices (repository : Repository) (organization : Organization)
    (isNewOrganization : Bool) : List Log.Notice :=
  match saveRules repository organization isNewOrganization with
  | .ok (report, _) => [savedNotice organization report]
  | .error _ => []

/-- What is reported about an edit of metadata. -/
def updateNotices (settings : Settings) (repository : Repository) (organization : Organization)
    (edit : MetadataEdit) : List Log.Notice :=
  match storedOrganization repository organization with
  | .error _ => []
  | .ok stored =>
      let updated := edit.apply settings stored
      edit.notices settings stored ++
        if updated.redirectionRules = stored.redirectionRules then []
        else saveNotices repository updated false

/-- What is reported about a request. -/
def notices (settings : Settings) (repository : Repository) : Step → List Log.Notice
  | .updateMetadata organization edit => updateNotices settings repository organization edit
  | .saveRules organization isNewOrganization =>
      saveNotices repository organization isNewOrganization
  | .resolve organization login roles =>
      match repository.get organization with
      | .ok rules => Resolution.notices settings roles rules login
      | .error _ => []
  | _ => []

end AuthRedirect.Service
