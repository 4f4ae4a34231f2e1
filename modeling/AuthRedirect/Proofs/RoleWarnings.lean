import AuthRedirect.Proofs.IssuePlaces
import AuthRedirect.Proofs.PlainAnswers
import AuthRedirect.Proofs.ProvisionedAnswers

/-!
The warning about an unknown role, against what the search does with the rule. The check
and the search each look up the role of a rule on their own. `role_warnings_exact` says that
they agree: a rule that is warned about answers no login, whatever the settings, and a rule
without errors and without a warning answers the one that happens on its own auth page.
-/

namespace AuthRedirect

open AuthRedirect.Text

namespace Validation

variable {roles : Option (List String)} {rules : List Rule} {rule : Rule} {slug : String}

/-! ## Rules that are warned about -/

/-- Whether a rule names a role of its own that is not among the known ones. -/
def NamesUnknownRole (roles : Option (List String)) (rule : Rule) : Prop :=
  blank rule.roleSlug = false ∧ rule.roleSlug ≠ anyRole ∧
    ∃ known, roles = some known ∧ rule.roleSlug ∉ known

/-- The only problem with a role that is no error is that it is unknown. -/
theorem roleCause?_eq_some_iff {cause : Cause} (warning : cause.isError = false) :
    roleCause? roles rule.roleSlug = some cause ↔
      cause = .unknownRole rule.roleSlug ∧ NamesUnknownRole roles rule := by
  unfold roleCause? NamesUnknownRole
  split
  · next isBlank =>
      have notMissing : Cause.missingRole ≠ cause := by
        rintro rfl
        cases warning
      simp [isBlank, notMissing]
  · next notBlank =>
      split
      · next any => simp [any]
      · next own =>
          cases roles with
          | none => simp
          | some known =>
              by_cases among : rule.roleSlug ∈ known
              · simp [among]
              · simp [among, own, notBlank, eq_comm]

/-- Every warning about a rule is about its role. -/
theorem mem_warnings_ruleIssues_iff {index : Option Int} {issue : Issue} :
    issue ∈ (ruleIssues roles index rule).filter (fun issue => !issue.isError) ↔
      issue = ⟨.rule index .roleSlug, .unknownRole rule.roleSlug⟩ ∧
        NamesUnknownRole roles rule := by
  -- The problems in front of the role are the same where no roles are known of, and
  -- there all are errors.
  obtain ⟨others, split⟩ : ∃ others, ∀ known, partIssues known rule =
      others ++ (roleCause? known rule.roleSlug).toList.map fun cause => (.roleSlug, cause) :=
    ⟨_, fun _ => rfl⟩
  have errors {part : Part} {cause : Cause} (among : (part, cause) ∈ others) :
      cause.isError = true := by
    have amongAll : (part, cause) ∈ partIssues none rule := by
      rw [split none]
      exact List.mem_append_left _ among
    exact isError_of_mem_partIssues amongAll
  rw [List.mem_filter, ruleIssues, split roles, List.mem_map, Bool.not_eq_true']
  constructor
  · rintro ⟨⟨⟨part, cause⟩, among, rfl⟩, warning⟩
    replace warning : cause.isError = false := warning
    rcases List.mem_append.mp among with before | last
    · rw [errors before] at warning
      cases warning
    · obtain ⟨found, problem, same⟩ := List.mem_map.mp last
      cases same
      obtain ⟨rfl, unknown⟩ :=
        (roleCause?_eq_some_iff warning).mp (Option.mem_toList.mp problem)
      exact ⟨rfl, unknown⟩
  · rintro ⟨rfl, unknown⟩
    have problem : roleCause? roles rule.roleSlug = some (.unknownRole rule.roleSlug) :=
      (roleCause?_eq_some_iff rfl).mpr ⟨rfl, unknown⟩
    refine ⟨⟨(.roleSlug, .unknownRole rule.roleSlug), ?_, rfl⟩, rfl⟩
    simp [problem]

theorem warnings_validateRule_eq_nil_iff {index : Option Int} :
    (validateRule roles index rule).warnings = [] ↔ ¬ NamesUnknownRole roles rule := by
  simp only [validateRule, Report.ofIssues, List.eq_nil_iff_forall_not_mem,
    mem_warnings_ruleIssues_iff, not_and, forall_eq]

/-- Whether a report warns at the path of the role of the rule at an index. -/
def WarnsOfRole (report : Report) (index : Nat) : Prop :=
  ∃ issue ∈ report.warnings, issue.path = "redirectionRules[" ++ toString index ++ "].roleSlug"

/-- A rule set is warned about at the path of a role where the rule there names an unknown
one. -/
theorem warnsOfRole_iff {isNewOrganization : Bool} {index : Nat} :
    WarnsOfRole (validateRuleSet roles isNewOrganization rules) index ↔
      ∃ rule, rules[index]? = some rule ∧ NamesUnknownRole roles rule := by
  have path : "redirectionRules[" ++ toString index ++ "].roleSlug" =
      (Place.rule (some ↑index) .roleSlug).text := by
    have tail : "].roleSlug" = "]." ++ "roleSlug" := by decide
    rw [tail, ← String.append_assoc]
    rfl
  unfold WarnsOfRole
  rw [path]
  constructor
  · rintro ⟨issue, among, atRole⟩
    obtain ⟨listed, warning⟩ := List.mem_filter.mp among
    rcases List.mem_append.mp listed with front | competing
    · rcases List.mem_append.mp front with missing | ofRule
      · split at missing
        · rw [List.mem_singleton.mp missing] at warning
          cases warning
        · cases missing
      · obtain ⟨here, rule, place, ofRule⟩ := mem_ruleSetIssues_zero_iff.mp ofRule
        obtain ⟨rfl, unknown⟩ :=
          mem_warnings_ruleIssues_iff.mp (List.mem_filter.mpr ⟨ofRule, warning⟩)
        obtain ⟨rfl, -⟩ := Place.text_rule_inj.mp atRole
        exact ⟨rule, place, unknown⟩
    · obtain ⟨entry, -, rfl⟩ := List.mem_map.mp competing
      exact absurd atRole (Place.text_ruleSet_ne _ _)
  · rintro ⟨rule, place, unknown⟩
    have warned : (⟨.rule (some ↑index) .roleSlug, .unknownRole rule.roleSlug⟩ : Issue) ∈
        (ruleIssues roles (some ↑index) rule).filter fun issue => !issue.isError :=
      mem_warnings_ruleIssues_iff.mpr ⟨rfl, unknown⟩
    obtain ⟨ofRule, warning⟩ := List.mem_filter.mp warned
    have ofSet := mem_ruleSetIssues_zero_iff.mpr ⟨index, rule, place, ofRule⟩
    refine ⟨_, List.mem_filter.mpr ⟨?_, warning⟩, rfl⟩
    exact List.mem_append_left _ (List.mem_append_right _ ofSet)

end Validation

/-! ## Answers -/

open Validation

variable {settings : Settings} {roles : Option (List String)} {rules : List Rule}
  {login : Login} {rule : Rule} {index : Nat}

theorem Rule.Eligible.not_namesUnknownRole (eligible : rule.Eligible settings roles login) :
    ¬ NamesUnknownRole roles rule := by
  rintro ⟨-, own, known, given, absent⟩
  rcases eligible.role known given with any | among
  · exact own any
  · exact absent among

/-- What a rule answers with comes from a choice at its place. -/
theorem exists_isChoice_of_ruleIndex?
    (answered : (resolve settings roles rules login).ruleIndex? = some index) :
    ∃ tier target, IsChoice settings roles rules login tier index target := by
  have answer := isAnswer_resolve settings roles rules login
  generalize resolve settings roles rules login = resolution at answer answered
  cases answer with
  | @choice tier _ target choice _ =>
      cases answered
      exact ⟨tier, target, choice⟩
  | fallback _ => cases answered

/-- Where there is a choice, a rule answers. -/
theorem IsChoice.exists_ruleIndex? {tier : Tier} {target : Target}
    (choice : IsChoice settings roles rules login tier index target) :
    ∃ place, (resolve settings roles rules login).ruleIndex? = some place := by
  have answer := isAnswer_resolve settings roles rules login
  generalize resolve settings roles rules login = resolution at answer
  cases answer with
  | choice _ _ => exact ⟨_, rfl⟩
  | fallback nothing => exact absurd choice (nothing _ _ _)

/-- A text that is not empty stands for its own origin, readable or not. -/
theorem Origin.overlap_self {url : String} (nonempty : url ≠ "") :
    Origin.overlap url url = true := by
  have same : overlapping (comparable url) (comparable url) = true := by
    rw [overlapping, Bool.or_self]
    exact occursIn_iff.mpr (List.infix_refl _)
  simp [Origin.overlap, nonempty, same]

/-- The login on the auth page of a rule, by someone who has the role that it names. -/
def Rule.ownLogin (rule : Rule) : Login where
  authOrigin := rule.authPageUrl
  roleSlug := rule.roleSlug

theorem SoundUrl.ne_empty {url : String} (sound : SoundUrl url) : url ≠ "" := by
  rintro rfl
  exact absurd sound.1 (by decide)

/-- A sound rule that names no unknown role is eligible for its own login. -/
theorem Rule.eligible_ownLogin (sound : Sound rule) (known : ¬ NamesUnknownRole roles rule) :
    rule.Eligible {} roles rule.ownLogin where
  origin := by
    rw [if_neg Bool.false_ne_true]
    exact Origin.overlap_self (SoundUrl.ne_empty sound.authPage)
  environment := by
    intro matched
    cases matched
  role := by
    intro slugs given
    by_contra unknown
    rw [not_or] at unknown
    exact known ⟨sound.role, unknown.1, slugs, given, unknown.2⟩

/-- A rule whose role is warned about is never what answers a login, under no settings. A
rule without errors and without a warning, alone and under the default settings, answers a
login. -/
theorem role_warnings_exact :
    (∀ roles isNewOrganization rules index,
      WarnsOfRole (validateRuleSet roles isNewOrganization rules) index →
        ∀ settings login, (resolve settings roles rules login).ruleIndex? ≠ some index) ∧
      ∀ roles index rule, (validateRule roles index rule).errors = [] →
        (validateRule roles index rule).warnings = [] →
          ∃ login, (resolve {} roles [rule] login).ruleIndex? = some 0 := by
  constructor
  · intro roles isNewOrganization rules index warns settings login answered
    obtain ⟨rule, place, unknown⟩ := warnsOfRole_iff.mp warns
    obtain ⟨tier, target, rule', place', eligible, -⟩ := exists_isChoice_of_ruleIndex? answered
    cases Option.some.inj (place.symm.trans place')
    exact eligible.not_namesUnknownRole unknown
  · intro roles index rule noErrors noWarnings
    have sound : Sound rule := by
      rw [validateRule, Report.ofIssues, errors_ruleIssues] at noErrors
      exact errors_validateRule_eq_nil_iff.mp noErrors
    have known := warnings_validateRule_eq_nil_iff.mp noWarnings
    have place : [rule][0]? = some rule := rfl
    obtain ⟨target, choice⟩ :=
      exists_isChoice_defaultFor sound place (Rule.eligible_ownLogin sound known) (.inl rfl)
    obtain ⟨place, answered⟩ := choice.exists_ruleIndex?
    obtain ⟨tier, target, choice'⟩ := exists_isChoice_of_ruleIndex? answered
    have first : place = 0 := Nat.lt_one_iff.mp choice'.lt_length
    exact ⟨rule.ownLogin, first ▸ answered⟩

/-- A rule for a role, where the role is known and where it is not. -/
theorem role_warnings_exact_of_adminRule :
    let rule : Rule := { environment := "production", authPageUrl := "acme", roleSlug := "admin"
                         targets := [⟨"https://app.acme.io/admin", false⟩] }
    WarnsOfRole (validateRuleSet (some ["user"]) false [rule]) 0 ∧
      (∀ settings login, (resolve settings (some ["user"]) [rule] login).ruleIndex? ≠ some 0) ∧
      (validateRule (some ["admin"]) none rule).errors = [] ∧
      (validateRule (some ["admin"]) none rule).warnings = [] ∧
      ∃ login, (resolve {} (some ["admin"]) [rule] login).ruleIndex? = some 0 := by
  intro rule
  have warns : WarnsOfRole (validateRuleSet (some ["user"]) false [rule]) 0 :=
    warnsOfRole_iff.mpr ⟨rule, rfl, by decide, by decide, ["user"], rfl, by decide⟩
  have noErrors : (validateRule (some ["admin"]) none rule).errors = [] := by decide +kernel
  have noWarnings : (validateRule (some ["admin"]) none rule).warnings = [] := by
    decide +kernel
  obtain ⟨silent, answers⟩ := role_warnings_exact
  exact ⟨warns, silent _ _ _ _ warns, noErrors, noWarnings, answers _ _ _ noErrors noWarnings⟩

end AuthRedirect
