import AuthRedirect.Proofs.ProvisioningRuns
import AuthRedirect.Proofs.ValidationErrors
import AuthRedirect.Store.Service

/-!
Which edits of metadata are refused although the stored rules have no errors, under
the default settings. The rules that provisioning adds have none either, but for one
case: a URL of which only the port is broken is not read as an origin, and a rule is
added for the URL as it stands. It is refused when it ends with a slash.
-/

namespace AuthRedirect

open AuthRedirect.Text AuthRedirect.Validation

/-! ## The errors of added rules -/

namespace Provisioning

variable {settings : Settings} {rules : List Rule} {origin : String}

/-- The auth page is all that can be wrong with a rule that sends everyone to a sound
fallback. -/
theorem errors_standardRule
    (sound : urlCause? .missingTargetUrl .slashAfterTargetUrl settings.fallbackPath = none)
    (index : Option Int) (environment origin description : String) :
    (validateRule none index (standardRule settings environment origin description)).errors =
      (urlCause? .missingAuthPageUrl .slashAfterAuthPageUrl origin).toList.map fun cause =>
        ⟨.rule index .authPageUrl, cause⟩ := by
  have target : urlCause? .missingTargetUrl .slashAfterTargetUrl (settings.fallbackFor origin) =
      none := by
    rw [Settings.fallbackFor_eq]
    exact urlCause?_append sound _
  have role : roleCause? none anyRole = none := by decide
  have parts : partIssues none (standardRule settings environment origin description) =
      (urlCause? .missingAuthPageUrl .slashAfterAuthPageUrl origin).toList.map fun cause =>
        (.authPageUrl, cause) := by
    simp [partIssues, standardRule, targetIssues, target, defaultCount, role]
  simp only [validateRule, Report.ofIssues, ruleIssues, parts]
  unfold urlCause?
  split
  · rfl
  · split <;> rfl

theorem errors_developmentRule (index : Option Int) :
    (validateRule none index (developmentRule {})).errors = [] := by
  have page : urlCause? .missingAuthPageUrl .slashAfterAuthPageUrl "http://localhost:4001" =
      none := by decide
  rw [developmentRule, errors_standardRule (by decide), page]
  rfl

/-- The error of a rule whose auth page ends with a slash. -/
def slashError (index : Nat) : Issue :=
  ⟨.rule (some index) .authPageUrl, .slashAfterAuthPageUrl⟩

theorem errors_productionRule (notBlank : blank origin = false) (index : Nat) :
    (validateRule none (some index) (productionRule {} origin)).errors =
      if origin.toList.getLast? = some '/' then [slashError index] else [] := by
  rw [productionRule, errors_standardRule (by decide), urlCause?_of_not_blank notBlank]
  split <;> rfl

theorem ruleSetErrors_missingLocal (index : Nat) (rules : List Rule) :
    ruleSetErrors index (missingLocal {} rules) = [] := by
  unfold missingLocal
  split
  · rfl
  · rw [ruleSetErrors, errors_developmentRule]
    rfl

theorem ruleSetErrors_missingProduction (notBlank : blank origin = false) (index : Nat)
    (rules : List Rule) :
    ruleSetErrors index (missingProduction {} rules origin) =
      if origin.toList.getLast? = some '/' ∧ ∀ rule ∈ rules, coversOrigin origin rule = false then
        [slashError index]
      else [] := by
  rcases lacking_cases (coversOrigin origin) rules (productionRule {} origin) with
    ⟨none, rule, among, covered⟩ | ⟨one, uncovered⟩
  · have notLacking : ¬ ∀ rule ∈ rules, coversOrigin origin rule = false := by
      intro uncovered
      rw [uncovered rule among] at covered
      cases covered
    rw [missingProduction, none, if_neg fun both => notLacking both.2]
    rfl
  · rw [missingProduction, one, ruleSetErrors, errors_productionRule notBlank, ruleSetErrors,
      List.append_nil]
    exact if_congr (and_iff_left uncovered).symm rfl rfl

/-- Whether a rule is added for a URL that ends with a slash, because the URL has a
broken port. -/
structure AddsSlash (rules : List Rule) (url : String) : Prop where
  broken : Origin.HasBrokenPort url
  slash : url.toList.getLast? = some '/'
  uncovered : ∀ rule ∈ rules ++ missingLocal {} rules, coversOrigin url rule = false

theorem AddsSlash.origin?_eq {url : String} (adds : AddsSlash rules url) :
    origin? {} (some url) = some url := by
  rw [origin?_default]
  exact (Origin.usable?_slash_iff.mpr ⟨rfl, adds.broken, adds.slash⟩).1

theorem addsSlash_iff {url : String} (usable : origin? {} (some url) = some origin) :
    AddsSlash rules url ↔ origin.toList.getLast? = some '/' ∧
      ∀ rule ∈ rules ++ missingLocal {} rules, coversOrigin origin rule = false := by
  constructor
  · intro adds
    rw [adds.origin?_eq] at usable
    cases usable
    exact ⟨adds.slash, adds.uncovered⟩
  · intro ⟨slash, uncovered⟩
    rw [origin?_default] at usable
    obtain ⟨rfl, broken, slash⟩ := Origin.usable?_slash_iff.mp ⟨usable, slash⟩
    exact ⟨broken, slash, uncovered⟩

/-- Provisioning adds one error to rules where it adds a rule for a URL that ends with
a slash, and none otherwise. -/
theorem ruleSetErrors_provision_cases (clean : ruleSetErrors 0 rules = []) (url : String) :
    (AddsSlash rules url ∧ ruleSetErrors 0 (provision {} rules (some url)) =
        [slashError (rules ++ missingLocal {} rules).length]) ∨
      (¬ AddsSlash rules url ∧ ruleSetErrors 0 (provision {} rules (some url)) = []) := by
  cases usable : origin? {} (some url) with
  | none =>
      refine .inr ⟨?_, by rw [provision_of_unusable usable, clean]⟩
      intro adds
      rw [adds.origin?_eq] at usable
      cases usable
  | some origin =>
      have web : Origin.hasWebScheme origin = true := by
        rw [origin?_default] at usable
        exact (Origin.usable?_eq_some_iff.mp usable).2.2
      have errors := ruleSetErrors_missingProduction (Origin.not_blank_of_hasWebScheme web)
        (rules ++ missingLocal {} rules).length (rules ++ missingLocal {} rules)
      rw [addsSlash_iff usable, provision_of_origin? usable, missingFor]
      simp only [← List.append_assoc, ruleSetErrors_append, clean, ruleSetErrors_missingLocal,
        Nat.zero_add, errors, List.nil_append]
      split
      · next both => exact .inl ⟨both, rfl⟩
      · next other => exact .inr ⟨other, rfl⟩

end Provisioning

/-! ## Refused edits -/

namespace Service

variable {settings : Settings} {store : Store} {organization : Organization}
  {edit : MetadataEdit} {stored : List Rule} {failure : Failure}

/-- Writing to a repository that is in reach fails for errors alone. -/
theorem saveRules_eq_error_iff {isNewOrganization : Bool} :
    saveRules (.ready store) organization isNewOrganization = .error failure ↔
      (report organization isNewOrganization).errors ≠ [] ∧
        failure = .rejected (report organization isNewOrganization).errors := by
  unfold saveRules accept Report.ok
  cases errors : (report organization isNewOrganization).errors with
  | nil => simp [Repository.put, Except.mapError, bind, Except.bind, pure, Except.pure]
  | cons first rest => simp [bind, Except.bind, eq_comm]

/-- An edit of a stored organization fails where it changes the rules and they are not
written. -/
theorem updateMetadata_eq_error_iff (found : store.get? organization.id = some stored) :
    updateMetadata settings (.ready store) organization edit = .error failure ↔
      (edit.apply settings { organization with redirectionRules := stored }).redirectionRules ≠
          stored ∧
        saveRules (.ready store)
          (edit.apply settings { organization with redirectionRules := stored }) false =
            .error failure := by
  have base : storedOrganization (.ready store) organization =
      .ok { organization with redirectionRules := stored } := by
    simp only [storedOrganization, Repository.get, found]
    rfl
  unfold updateMetadata
  rw [base]
  simp only [bind, Except.bind, pure, Except.pure]
  split
  · next same => simp [same]
  · next changed =>
      cases saved : saveRules (.ready store)
          (edit.apply settings { organization with redirectionRules := stored }) false with
      | ok written => simp
      | error failure => simp [changed]

theorem errors_report (organization : Organization) :
    (report organization false).errors = ruleSetErrors 0 organization.redirectionRules := by
  rw [report, errors_validateRuleSet, Bool.false_and, if_neg Bool.false_ne_true, List.nil_append]

/-- An edit of an organization whose stored rules have no errors is refused where it
provisions for a URL of which the port is broken and which ends with a slash, unless a
rule covers that URL. The error is that of the added rule. Nothing else makes it fail. -/
theorem updateMetadata_refused_iff {roles : Option (List String)} {isNewOrganization : Bool}
    (found : store.get? organization.id = some stored)
    (clean : (validateRuleSet roles isNewOrganization stored).errors = []) :
    updateMetadata {} (.ready store) organization edit = .error failure ↔
      ∃ url, edit.urlToProvision? {} { organization with redirectionRules := stored } = some url ∧
        Provisioning.AddsSlash stored url ∧
        failure = .rejected [Provisioning.slashError
          (stored ++ Provisioning.missingLocal {} stored).length] := by
  have sound : ruleSetErrors 0 stored = [] := by
    rw [errors_validateRuleSet] at clean
    exact (List.append_eq_nil_iff.mp clean).2
  have rules : (edit.apply {} { organization with redirectionRules := stored }).redirectionRules =
      Provisioning.provision {} stored
        (edit.urlToProvision? {} { organization with redirectionRules := stored }) := rfl
  rw [updateMetadata_eq_error_iff found, saveRules_eq_error_iff, errors_report, rules]
  cases edit.urlToProvision? {} { organization with redirectionRules := stored } with
  | none =>
      have same : Provisioning.provision {} stored none = stored :=
        Provisioning.provision_of_unusable rfl
      simp [same]
  | some url =>
      rcases Provisioning.ruleSetErrors_provision_cases sound url with
        ⟨adds, errors⟩ | ⟨sparesSlash, errors⟩
      · -- The stored rules have no error, so the rules with one are others.
        have changed : Provisioning.provision {} stored (some url) ≠ stored := by
          intro same
          rw [same, sound] at errors
          cases errors
        simp [errors, adds, changed]
      · simp [errors, sparesSlash]

/-- No port is above 65535, so this URL is not read as an origin, and the rule that is
added for it keeps the slash. -/
theorem updateMetadata_refused_of_broken_port :
    updateMetadata {} (.ready ⟨[("o1", [])], 0⟩) { id := "o1" }
        { authServerUrl := .set (some "https://auth.acme.io:99999/") } =
      .error (.rejected [Provisioning.slashError 1]) := by
  have broken : Origin.HasBrokenPort "https://auth.acme.io:99999/" :=
    ⟨by decide, ⟨"https".toList, "auth.acme.io:99999".toList, ['/'], [], []⟩, by decide +kernel,
      by decide +kernel, by decide +kernel⟩
  have adds : Provisioning.AddsSlash [] "https://auth.acme.io:99999/" :=
    ⟨broken, by decide, by decide +kernel⟩
  have clean : (validateRuleSet none false []).errors = [] := by decide
  exact (updateMetadata_refused_iff rfl clean).mpr
    ⟨"https://auth.acme.io:99999/", by decide, adds, by decide⟩

end Service

end AuthRedirect
