import AuthRedirect.Store.Service

/-!
The requests of the service as programs that work on a repository command by
command. Nothing is undone here: when a program fails, what it has written by then
stays written. `on_answer` says that this makes no difference: a request ends with
the same outcome and in the same repository as `Service.step`, which goes back to the
repository before it when a request fails. So no request fails behind a write.
-/

namespace AuthRedirect.Service

/-- An edit of an organization that is stored: its rules are saved if they are others
than before. -/
theorem updateMetadata_of_get {settings : Settings} {repository : Repository}
    {organization : Organization} {edit : MetadataEdit} {current : List Rule}
    (found : repository.get organization.id = .ok current) :
    updateMetadata settings repository organization edit =
      let updated := edit.apply settings { organization with redirectionRules := current }
      if updated.redirectionRules = current then .ok (updated, repository)
      else (saveRules repository updated false).map fun saved => (updated, saved.2) := by
  rw [updateMetadata, storedOrganization, found]
  dsimp only [Except.mapError, bind, Except.bind, pure, Except.pure]
  split
  · rfl
  · cases saveRules repository
        (edit.apply settings { organization with redirectionRules := current }) false <;> rfl

theorem updateMetadata_of_not_get {settings : Settings} {repository : Repository}
    {organization : Organization} {edit : MetadataEdit} {error : RepositoryError}
    (missing : repository.get organization.id = .error error) :
    updateMetadata settings repository organization edit = .error (.repository error) := by
  rw [updateMetadata, storedOrganization, missing]
  rfl

/-- What fails or gives a value, and leaves a repository behind in either case. -/
abbrev Program (α : Type) := ExceptT Failure (StateM Repository) α

namespace Program

open Validation

/-! ## Commands -/

def get (organization : String) : Program (List Rule) :=
  ExceptT.mk fun repository =>
    match repository.get organization with
    | .ok rules => (.ok rules, repository)
    | .error error => (.error (.repository error), repository)

def put (organization : String) (rules : List Rule) : Program Unit :=
  ExceptT.mk fun repository =>
    match repository.put organization rules with
    | .ok written => (.ok (), written)
    | .error error => (.error (.repository error), repository)

def contains (organization : String) : Program Bool :=
  ExceptT.mk fun repository => (.ok (repository.contains organization), repository)

/-! ## Requests -/

def saveRules (organization : Organization) (isNewOrganization : Bool) : Program Report := do
  let report := Service.report organization isNewOrganization
  unless report.ok do throw (.rejected report.errors)
  put organization.id organization.redirectionRules
  return report

def updateMetadata (settings : Settings) (organization : Organization) (edit : MetadataEdit) :
    Program Organization := do
  let current ← get organization.id
  let updated := edit.apply settings { organization with redirectionRules := current }
  if updated.redirectionRules ≠ current then
    let _ ← saveRules updated false
  return updated

def answer (settings : Settings) : Step → Program Answer
  | .get organization => return .rules (← get organization)
  | .put organization rules => do
      put organization rules
      return .done
  | .contains organization => return .isStored (← contains organization)
  | .updateMetadata organization edit =>
      return .organization (← updateMetadata settings organization edit)
  | .saveRules organization isNewOrganization =>
      return .report (← saveRules organization isNewOrganization)
  | .resolve organization login roles =>
      return .resolution (AuthRedirect.resolve settings roles (← get organization) login)

/-! ## No failure behind a write -/

/-- The outcome of a program on a repository, and the repository that it leaves. -/
def on (program : Program α) (repository : Repository) : Except Failure α × Repository :=
  (ExceptT.run program).run repository

/-- The outcome of a result that carries the repository with it, where a failure goes
back to the given repository. -/
def committed (repository : Repository) :
    Except Failure (α × Repository) → Except Failure α × Repository
  | .ok (value, after) => (.ok value, after)
  | .error failure => (.error failure, repository)

variable {α β : Type} {repository : Repository}

theorem on_bind (program : Program α) (next : α → Program β) (repository : Repository) :
    (program >>= next).on repository =
      match program.on repository with
      | (.ok value, after) => (next value).on after
      | (.error failure, after) => (.error failure, after) := by
  simp only [on, ExceptT.run_bind, StateT.run_bind]
  rcases program.run.run repository with ⟨_ | _, _⟩ <;> rfl

theorem on_get (organization : String) (repository : Repository) :
    (get organization).on repository =
      ((repository.get organization).mapError Failure.repository, repository) := by
  unfold on get
  rw [ExceptT.run_mk, StateT.run]
  cases repository.get organization <;> rfl

theorem on_put (organization : String) (rules : List Rule) (repository : Repository) :
    (put organization rules).on repository =
      committed repository
        (((repository.put organization rules).mapError Failure.repository).map
          fun written => ((), written)) := by
  unfold on put
  rw [ExceptT.run_mk, StateT.run]
  cases repository.put organization rules <;> rfl

theorem on_saveRules (organization : Organization) (isNewOrganization : Bool)
    (repository : Repository) :
    (saveRules organization isNewOrganization).on repository =
      committed repository (Service.saveRules repository organization isNewOrganization) := by
  rw [saveRules, Service.saveRules, accept]
  cases ok : (Service.report organization isNewOrganization).ok with
  | false => rfl
  | true =>
      simp only [if_true]
      rw [on_bind, on_put]
      cases (repository.put organization.id organization.redirectionRules).mapError
          Failure.repository <;> rfl

theorem on_updateMetadata (settings : Settings) (organization : Organization)
    (edit : MetadataEdit) (repository : Repository) :
    (updateMetadata settings organization edit).on repository =
      committed repository (Service.updateMetadata settings repository organization edit) := by
  rw [updateMetadata, on_bind, on_get]
  cases found : repository.get organization.id with
  | error error =>
      rw [updateMetadata_of_not_get found]
      rfl
  | ok current =>
      rw [updateMetadata_of_get found]
      dsimp only [Except.mapError]
      generalize edit.apply settings { organization with redirectionRules := current } = updated
      by_cases same : updated.redirectionRules = current
      · rw [if_pos same, if_neg (not_not_intro same)]
        rfl
      · rw [if_neg same, if_pos same, on_bind, on_saveRules]
        cases Service.saveRules repository updated false <;> rfl

theorem on_answer (settings : Settings) (request : Step) (repository : Repository) :
    (answer settings request).on repository = step settings repository request := by
  cases request with
  | get organization =>
      rw [answer, step, attempt, on_bind, on_get]
      cases (repository.get organization).mapError Failure.repository <;> rfl
  | put organization rules =>
      rw [answer, step, attempt, on_bind, on_put]
      cases (repository.put organization rules).mapError Failure.repository <;> rfl
  | contains organization =>
      rfl
  | updateMetadata organization edit =>
      rw [answer, step, attempt, on_bind, on_updateMetadata]
      cases Service.updateMetadata settings repository organization edit <;> rfl
  | saveRules organization isNewOrganization =>
      rw [answer, step, attempt, on_bind, on_saveRules]
      cases Service.saveRules repository organization isNewOrganization <;> rfl
  | resolve organization login roles =>
      rw [answer, step, attempt, on_bind, on_get]
      cases (repository.get organization).mapError Failure.repository <;> rfl

end Program

end AuthRedirect.Service
