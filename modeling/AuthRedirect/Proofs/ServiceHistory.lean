import AuthRedirect.Proofs.MetadataEdits
import AuthRedirect.Proofs.Outcomes
import AuthRedirect.Proofs.ServicePrograms
import AuthRedirect.Proofs.ValidationErrors

/-!
What a run of requests does to a repository. `Effect` says once what a request that
succeeds can do; every law below is a case analysis of it. A history is the list of
the exchanges of a run, each with the repository before it and after it.
-/

namespace AuthRedirect

open AuthRedirect.Validation

/-! ## Reading what was written -/

namespace Repository

variable {repository after : Repository} {organization other : String} {rules : List Rule}

/-- The number of writes so far. A repository that is out of reach counts none. -/
def writes : Repository → Nat
  | .ready store => store.writes
  | .unreachable _ => 0

theorem get_of_put (written : repository.put organization rules = .ok after) :
    after.get organization = .ok rules := by
  cases repository with
  | unreachable failure => cases written
  | ready store =>
      cases written
      rw [get, Store.get?_put, if_pos rfl]

theorem get_other_of_put (written : repository.put organization rules = .ok after)
    (elsewhere : other ≠ organization) : after.get other = repository.get other := by
  cases repository with
  | unreachable failure => cases written
  | ready store =>
      cases written
      rw [get, Store.get?_put, if_neg elsewhere]
      rfl

theorem writes_of_put (written : repository.put organization rules = .ok after) :
    after.writes = repository.writes + 1 := by
  cases repository with
  | unreachable failure => cases written
  | ready store =>
      cases written
      rfl

end Repository

namespace Service

variable {settings : Settings} {repository after : Repository} {request : Step} {answer : Answer}

/-! ## What a request can do -/

/-- What a request that succeeds gives back, and the repository that it leaves. -/
inductive Effect (settings : Settings) (repository : Repository) : Step → Answer → Repository → Prop
  | get {organization : String} {rules : List Rule} : repository.get organization = .ok rules →
    Effect settings repository (.get organization) (.rules rules) repository
  | put {organization : String} {rules : List Rule} {after : Repository} :
    repository.put organization rules = .ok after →
    Effect settings repository (.put organization rules) .done after
  | contains (organization : String) :
    Effect settings repository (.contains organization)
      (.isStored (repository.contains organization)) repository
  | resolve {organization : String} {rules : List Rule} (login : Login)
      (roles : Option (List String)) : repository.get organization = .ok rules →
    Effect settings repository (.resolve organization login roles)
      (.resolution (AuthRedirect.resolve settings roles rules login)) repository
  | saveRules {organization : Organization} {isNewOrganization : Bool} {after : Repository} :
    (report organization isNewOrganization).errors = [] →
    repository.put organization.id organization.redirectionRules = .ok after →
    Effect settings repository (.saveRules organization isNewOrganization)
      (.report (report organization isNewOrganization)) after
  /-- The rules need no change. -/
  | confirm {organization updated : Organization} {edit : MetadataEdit} {current : List Rule} :
    repository.get organization.id = .ok current →
    updated = edit.apply settings { organization with redirectionRules := current } →
    updated.redirectionRules = current →
    Effect settings repository (.updateMetadata organization edit) (.organization updated) repository
  /-- Rules are added. -/
  | provision {organization updated : Organization} {edit : MetadataEdit} {current : List Rule}
      {after : Repository} :
    repository.get organization.id = .ok current →
    updated = edit.apply settings { organization with redirectionRules := current } →
    updated.redirectionRules ≠ current → (report updated false).errors = [] →
    repository.put organization.id updated.redirectionRules = .ok after →
    Effect settings repository (.updateMetadata organization edit) (.organization updated) after

theorem saveRules_eq_ok_iff {organization : Organization} {isNewOrganization : Bool}
    {saved : Report} :
    saveRules repository organization isNewOrganization = .ok (saved, after) ↔
      (report organization isNewOrganization).errors = [] ∧
        saved = report organization isNewOrganization ∧
        repository.put organization.id organization.redirectionRules = .ok after := by
  unfold saveRules accept Report.ok
  cases errors : (report organization isNewOrganization).errors with
  | cons first rest => simp [bind, Except.bind]
  | nil =>
      cases repository.put organization.id organization.redirectionRules with
      | error error => simp [Except.mapError, bind, Except.bind]
      | ok written =>
          simp [Except.mapError, bind, Except.bind, pure, Except.pure, eq_comm]

theorem updateMetadata_eq_ok_iff {organization updated : Organization} {edit : MetadataEdit} :
    updateMetadata settings repository organization edit = .ok (updated, after) ↔
      Effect settings repository (.updateMetadata organization edit) (.organization updated)
        after := by
  cases found : repository.get organization.id with
  | error error =>
      rw [updateMetadata_of_not_get found]
      constructor
      · intro done
        cases done
      · intro effect
        cases effect with
        | confirm stored _ _ => cases found.symm.trans stored
        | provision stored _ _ _ _ => cases found.symm.trans stored
  | ok current =>
      have id := edit.id_apply settings { organization with redirectionRules := current }
      rw [updateMetadata_of_get found]
      dsimp only
      constructor
      · intro done
        split at done
        · next same =>
            cases done
            exact .confirm found rfl same
        · next changed =>
            cases saved : saveRules repository
                (edit.apply settings { organization with redirectionRules := current }) false with
            | error failure =>
                rw [saved] at done
                cases done
            | ok result =>
                rw [saved] at done
                cases done
                obtain ⟨sound, -, written⟩ := saveRules_eq_ok_iff.mp saved
                rw [id] at written
                exact .provision found rfl changed sound written
      · intro effect
        cases effect with
        | confirm stored edited same =>
            cases found.symm.trans stored
            rw [← edited, if_pos same]
        | provision stored edited changed sound written =>
            cases found.symm.trans stored
            rw [← edited] at id ⊢
            dsimp only at id
            rw [← id] at written
            rw [if_neg changed, saveRules_eq_ok_iff.mpr ⟨sound, rfl, written⟩]
            rfl

/-- A request succeeds with an effect, and in no other way. -/
theorem attempt_eq_ok_iff :
    attempt settings repository request = .ok (answer, after) ↔
      Effect settings repository request answer after := by
  constructor
  · intro done
    cases request with
    | get organization =>
        obtain ⟨rules, found, same⟩ := bind_eq_ok_iff.mp done
        cases same
        exact .get (mapError_eq_ok_iff.mp found)
    | put organization rules =>
        obtain ⟨written, put, same⟩ := bind_eq_ok_iff.mp done
        cases same
        exact .put (mapError_eq_ok_iff.mp put)
    | contains organization =>
        cases done
        exact .contains organization
    | updateMetadata organization edit =>
        obtain ⟨⟨updated, written⟩, edited, same⟩ := bind_eq_ok_iff.mp done
        cases same
        exact updateMetadata_eq_ok_iff.mp edited
    | saveRules organization isNewOrganization =>
        obtain ⟨⟨saved, written⟩, done, same⟩ := bind_eq_ok_iff.mp done
        cases same
        obtain ⟨sound, rfl, put⟩ := saveRules_eq_ok_iff.mp done
        exact .saveRules sound put
    | resolve organization login roles =>
        obtain ⟨rules, found, same⟩ := bind_eq_ok_iff.mp done
        cases same
        exact .resolve login roles (mapError_eq_ok_iff.mp found)
  · intro effect
    cases effect with
    | get found => exact bind_eq_ok_iff.mpr ⟨_, mapError_eq_ok_iff.mpr found, rfl⟩
    | put written => exact bind_eq_ok_iff.mpr ⟨_, mapError_eq_ok_iff.mpr written, rfl⟩
    | contains organization => rfl
    | resolve login roles found =>
        exact bind_eq_ok_iff.mpr ⟨_, mapError_eq_ok_iff.mpr found, rfl⟩
    | saveRules sound written =>
        exact bind_eq_ok_iff.mpr ⟨_, saveRules_eq_ok_iff.mpr ⟨sound, rfl, written⟩, rfl⟩
    | confirm found edited same =>
        exact bind_eq_ok_iff.mpr
          ⟨_, updateMetadata_eq_ok_iff.mpr (.confirm found edited same), rfl⟩
    | provision found edited changed sound written =>
        exact bind_eq_ok_iff.mpr
          ⟨_, updateMetadata_eq_ok_iff.mpr (.provision found edited changed sound written), rfl⟩

/-- A request has its effect, or it fails and the repository is the one before it. -/
theorem step_cases (settings : Settings) (repository : Repository) (request : Step) :
    (∃ answer after, Effect settings repository request answer after ∧
        step settings repository request = (.ok answer, after)) ∨
      ∃ failure, step settings repository request = (.error failure, repository) := by
  unfold step
  cases done : attempt settings repository request with
  | error failure => exact .inr ⟨failure, rfl⟩
  | ok result =>
      rcases result with ⟨answer, after⟩
      exact .inl ⟨answer, after, attempt_eq_ok_iff.mp done, rfl⟩

/-! ## Histories -/

/-- The organization that a request is about. -/
def Step.organization : Step → String
  | .get organization => organization
  | .put organization _ => organization
  | .contains organization => organization
  | .updateMetadata organization _ => organization.id
  | .saveRules organization _ => organization.id
  | .resolve organization _ _ => organization

/-- Whether a request only asks. -/
def Step.asks : Step → Bool
  | .get _ | .contains _ | .resolve _ _ _ => true
  | .put _ _ | .updateMetadata _ _ | .saveRules _ _ => false

/-- A request with its outcome, and the repository before it and after it. -/
structure Exchange where
  request : Step
  before : Repository
  outcome : Except Failure Answer
  after : Repository

def exchange (settings : Settings) (repository : Repository) (request : Step) : Exchange where
  request := request
  before := repository
  outcome := (step settings repository request).1
  after := (step settings repository request).2

/-- The exchanges of a run, each from the repository that the one before it left. -/
def history (settings : Settings) (repository : Repository) : List Step → List Exchange
  | [] => []
  | request :: rest =>
      exchange settings repository request ::
        history settings (exchange settings repository request).after rest

/-- Whether an exchange counts as a write. An edit of metadata does where its rules are
others than the stored ones. -/
def Exchange.wrote (exchange : Exchange) : Bool :=
  match exchange.request, exchange.outcome with
  | .put _ _, .ok _ => true
  | .saveRules _ _, .ok _ => true
  | .updateMetadata organization _, .ok (.organization updated) =>
      exchange.before.get organization.id ≠ .ok updated.redirectionRules
  | _, _ => false

/-! ## The laws of an effect -/

/-- Only the entry of the organization itself changes. -/
theorem Effect.get_other (effect : Effect settings repository request answer after)
    {other : String} (elsewhere : other ≠ request.organization) :
    after.get other = repository.get other := by
  cases effect with
  | get _ => rfl
  | put written => exact Repository.get_other_of_put written elsewhere
  | contains _ => rfl
  | resolve _ _ _ => rfl
  | saveRules _ written => exact Repository.get_other_of_put written elsewhere
  | confirm _ _ _ => rfl
  | provision _ _ _ _ written => exact Repository.get_other_of_put written elsewhere

theorem Effect.eq_of_asks (effect : Effect settings repository request answer after)
    (asks : request.asks = true) : after = repository := by
  cases effect with
  | get _ => rfl
  | contains _ => rfl
  | resolve _ _ _ => rfl
  | put _ => cases asks
  | saveRules _ _ => cases asks
  | confirm _ _ _ => cases asks
  | provision _ _ _ _ _ => cases asks

/-- After an edit, the rules of the edited organization are stored. -/
theorem Effect.get_updated {organization : Organization} {edit : MetadataEdit}
    (effect : Effect settings repository (.updateMetadata organization edit) answer after) :
    ∃ updated, answer = .organization updated ∧
      after.get organization.id = .ok updated.redirectionRules := by
  cases effect with
  | confirm found _ same =>
      refine ⟨_, rfl, ?_⟩
      rw [same]
      exact found
  | provision _ _ _ _ written => exact ⟨_, rfl, Repository.get_of_put written⟩

theorem Effect.get_saved {organization : Organization} {isNewOrganization : Bool}
    (effect : Effect settings repository (.saveRules organization isNewOrganization) answer after) :
    after.get organization.id = .ok organization.redirectionRules := by
  cases effect with
  | saveRules _ written => exact Repository.get_of_put written

/-- The write counter counts the exchange if it wrote. -/
theorem Effect.writes_eq (effect : Effect settings repository request answer after) :
    after.writes = repository.writes +
      if Exchange.wrote ⟨request, repository, .ok answer, after⟩ then 1 else 0 := by
  cases effect with
  | get _ => rfl
  | put written => exact Repository.writes_of_put written
  | contains _ => rfl
  | resolve _ _ _ => rfl
  | saveRules _ written => exact Repository.writes_of_put written
  | confirm found _ same => simp [Exchange.wrote, found, same]
  | provision found _ changed _ written =>
      simp [Exchange.wrote, found, Ne.symm changed, Repository.writes_of_put written]

/-! ## Rule sets without errors -/

/-- Whether a rule set has no errors, whichever roles are known. -/
def ErrorFree (rules : List Rule) : Prop :=
  ∀ roles, (validateRuleSet roles false rules).errors = []

/-- Whether no stored rule set has errors. -/
def Sound (repository : Repository) : Prop :=
  ∀ organization rules, repository.get organization = .ok rules → ErrorFree rules

theorem errorFree_iff {rules : List Rule} : ErrorFree rules ↔ ruleSetErrors 0 rules = [] := by
  simp only [ErrorFree, errors_validateRuleSet, Bool.false_and, Bool.false_eq_true, if_false,
    List.nil_append, forall_const]

theorem errorFree_of_report {organization : Organization} {isNewOrganization : Bool}
    (accepted : (report organization isNewOrganization).errors = []) :
    ErrorFree organization.redirectionRules := by
  rw [report, errors_validateRuleSet] at accepted
  exact errorFree_iff.mpr (List.append_eq_nil_iff.mp accepted).2

theorem Sound.put (sound : Sound repository) {organization : String} {rules : List Rule}
    (errorFree : ErrorFree rules) (written : repository.put organization rules = .ok after) :
    Sound after := by
  intro other stored found
  by_cases same : other = organization
  · rw [same, Repository.get_of_put written] at found
    cases found
    exact errorFree
  · rw [Repository.get_other_of_put written same] at found
    exact sound other stored found

/-- Rules are checked before the service writes them, so errors come in by a direct
write alone. -/
theorem Effect.sound (effect : Effect settings repository request answer after)
    (sound : Sound repository)
    (direct : ∀ organization rules, request = .put organization rules → ErrorFree rules) :
    Sound after := by
  cases effect with
  | get _ => exact sound
  | put written => exact sound.put (direct _ _ rfl) written
  | contains _ => exact sound
  | resolve _ _ _ => exact sound
  | saveRules accepted written => exact sound.put (errorFree_of_report accepted) written
  | confirm _ _ _ => exact sound
  | provision _ _ _ accepted written => exact sound.put (errorFree_of_report accepted) written

/-! ## The laws of a run -/

/-- What holds of every exchange. -/
structure Exchange.Lawful (settings : Settings) (exchange : Exchange) : Prop where
  /-- At most the entry of the organization itself changes. -/
  frame : ∀ other, other ≠ exchange.request.organization →
    exchange.after.get other = exchange.before.get other
  /-- Nothing has to be undone: run as a program, of which every write stays, the request
  comes to the same end. -/
  unguarded : (Program.answer settings exchange.request).on exchange.before =
    (exchange.outcome, exchange.after)
  failed : ∀ failure, exchange.outcome = .error failure → exchange.after = exchange.before
  asked : exchange.request.asks = true → exchange.after = exchange.before
  updated : ∀ organization edit answer, exchange.request = .updateMetadata organization edit →
    exchange.outcome = .ok answer → ∃ updated, answer = .organization updated ∧
      exchange.after.get organization.id = .ok updated.redirectionRules
  saved : ∀ organization isNewOrganization answer,
    exchange.request = .saveRules organization isNewOrganization →
    exchange.outcome = .ok answer →
      exchange.after.get organization.id = .ok organization.redirectionRules

theorem lawful_exchange (settings : Settings) (repository : Repository) (request : Step) :
    (exchange settings repository request).Lawful settings := by
  have unguarded := Program.on_answer settings request repository
  unfold exchange
  rcases step_cases settings repository request with
    ⟨answer, after, effect, outcome⟩ | ⟨failure, outcome⟩
  · rw [outcome] at unguarded ⊢
    refine ⟨fun other => effect.get_other, unguarded, ?_, effect.eq_of_asks, ?_, ?_⟩
    · intro failure failed
      cases failed
    · intro organization edit answer same done
      cases same
      cases done
      exact effect.get_updated
    · intro organization isNewOrganization answer same done
      cases same
      cases done
      exact effect.get_saved
  · rw [outcome] at unguarded ⊢
    refine ⟨fun _ _ => rfl, unguarded, fun _ _ => rfl, fun _ => rfl, ?_, ?_⟩
    · intro organization edit answer _ done
      cases done
    · intro organization isNewOrganization answer _ done
      cases done

theorem writes_exchange (settings : Settings) (repository : Repository) (request : Step) :
    (exchange settings repository request).after.writes =
      repository.writes + if (exchange settings repository request).wrote then 1 else 0 := by
  unfold exchange
  rcases step_cases settings repository request with
    ⟨answer, after, effect, outcome⟩ | ⟨failure, outcome⟩
  · rw [outcome]
    exact effect.writes_eq
  · rw [outcome]
    cases request <;> rfl

theorem sound_exchange (settings : Settings) {repository : Repository} {request : Step}
    (sound : Sound repository)
    (direct : ∀ organization rules, request = .put organization rules → ErrorFree rules) :
    Sound (exchange settings repository request).after := by
  unfold exchange
  rcases step_cases settings repository request with
    ⟨answer, after, effect, outcome⟩ | ⟨failure, outcome⟩
  · rw [outcome]
    exact effect.sound sound direct
  · rw [outcome]
    exact sound

/-- Every exchange of a run keeps to the laws, the write counter of the repository is the
number of exchanges that wrote, and rule sets without errors stay without errors as long
as none with errors is written past the service. -/
theorem history_laws (settings : Settings) (repository : Repository) (steps : List Step) :
    (∀ exchange ∈ history settings repository steps, exchange.Lawful settings) ∧
      (run settings repository steps).writes =
        repository.writes + (history settings repository steps).countP Exchange.wrote ∧
      (Sound repository →
        (∀ organization rules, Step.put organization rules ∈ steps → ErrorFree rules) →
        ∀ exchange ∈ history settings repository steps,
          Sound exchange.before ∧ Sound exchange.after) := by
  induction steps generalizing repository with
  | nil => exact ⟨by simp [history], rfl, by simp [history]⟩
  | cons request rest ih =>
      obtain ⟨lawful, count, sound⟩ := ih (exchange settings repository request).after
      refine ⟨?_, ?_, ?_⟩
      · intro one among
        rcases List.mem_cons.mp among with rfl | later
        · exact lawful_exchange settings repository request
        · exact lawful one later
      · have last : run settings repository (request :: rest) =
            run settings (exchange settings repository request).after rest := rfl
        rw [last, count, writes_exchange, history, List.countP_cons, Nat.add_assoc,
          Nat.add_comm (List.countP _ _)]
      · intro before direct one among
        have after := sound_exchange settings before fun organization rules same =>
          direct organization rules (same ▸ List.mem_cons_self)
        rcases List.mem_cons.mp among with rfl | later
        · exact ⟨before, after⟩
        · refine sound after ?_ one later
          intro organization rules put
          exact direct organization rules (List.mem_cons_of_mem _ put)

/-- A rule set is written past the service, and an edit adds a rule to it. -/
theorem sound_history_of_empty_store :
    let steps : List Step := [.put "o1" [Provisioning.developmentRule {}],
      .updateMetadata { id := "o1" } { authServerUrl := .set (some "https://auth.acme.io") }]
    (run {} (.ready ⟨[], 0⟩) steps).writes = 2 ∧
      ∀ exchange ∈ history {} (.ready ⟨[], 0⟩) steps,
        Sound exchange.before ∧ Sound exchange.after := by
  intro steps
  have empty : Sound (.ready ⟨[], 0⟩) := by
    intro organization rules found
    cases found
  have direct : ∀ organization rules, Step.put organization rules ∈ steps → ErrorFree rules := by
    intro organization rules among
    have same : organization = "o1" ∧ rules = [Provisioning.developmentRule {}] := by
      simpa [steps] using among
    rw [same.2, errorFree_iff]
    decide +kernel
  obtain ⟨-, count, sound⟩ := history_laws {} (.ready ⟨[], 0⟩) steps
  refine ⟨?_, sound empty direct⟩
  rw [count]
  decide +kernel

end Service

end AuthRedirect
