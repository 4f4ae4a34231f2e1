import AuthRedirect.Proofs.CompetingDefaults
import AuthRedirect.RuleSet

/-!
Making one URL the only default, against the checks of a rule set. The URL is compared with
every target of a rule, so a rule that has it twice gets two defaults, and no other error comes
up (`errors_enforceSingleDefault`). The rules are picked by the environment and the role that
they name, while the warning about competing defaults also counts rules that leave them open.
Those keep their defaults, and with them the warning (`competition_enforceSingleDefault`).
-/

namespace AuthRedirect.RuleSet

open Validation

variable {roles : Option (List String)} {isNewOrganization : Bool} {rules : List Rule}
  {rule : Rule} {environment roleSlug url : String} {issue : Issue}

/-! ## One rule -/

/-- How many targets of a rule have a URL. -/
def carried (url : String) (rule : Rule) : Nat :=
  rule.targets.countP fun target => target.url == url

/-- Whether a rule names an environment and a role. -/
def IsFor (environment roleSlug : String) (rule : Rule) : Prop :=
  rule.environment = environment ∧ rule.roleSlug = roleSlug

instance : Decidable (IsFor environment roleSlug rule) :=
  inferInstanceAs (Decidable (_ ∧ _))

/-- What becomes of a rule when a URL is made the only default for an environment and a role. -/
def settle (environment roleSlug url : String) (rule : Rule) : Rule :=
  if IsFor environment roleSlug rule then markDefault url rule else rule

theorem enforceSingleDefault_eq :
    enforceSingleDefault rules environment roleSlug url =
      rules.map (settle environment roleSlug url) :=
  rfl

theorem settle_of_isFor (named : IsFor environment roleSlug rule) :
    settle environment roleSlug url rule = markDefault url rule :=
  if_pos named

theorem settle_of_not_isFor (other : ¬ IsFor environment roleSlug rule) :
    settle environment roleSlug url rule = rule :=
  if_neg other

theorem defaultCount_markDefault (url : String) (rule : Rule) :
    defaultCount (markDefault url rule) = carried url rule := by
  rw [defaultCount, markDefault, List.countP_map]
  rfl

theorem hasDefault_markDefault_iff :
    (markDefault url rule).hasDefault = true ↔ 0 < carried url rule := by
  rw [Rule.hasDefault, markDefault, List.any_map, List.any_eq_true, carried, List.countP_pos_iff]
  rfl

theorem group_settle (rule : Rule) : group (settle environment roleSlug url rule) = group rule := by
  unfold settle
  split <;> rfl

/-! ## Errors -/

/-- All that can be wrong with a sound rule in which a URL was made the only default is that
it has the URL more than once. -/
theorem partIssues_markDefault (sound : Sound rule) (url : String) :
    partIssues none (markDefault url rule) =
      if 1 < carried url rule then [(.targets, .severalDefaults)] else [] := by
  have page : urlCause? .missingAuthPageUrl .slashAfterAuthPageUrl
      (markDefault url rule).authPageUrl = none := urlCause?_eq_none_iff.mpr sound.authPage
  have someTarget : (markDefault url rule).targets.isEmpty = false := by
    rw [markDefault, List.isEmpty_map, List.isEmpty_eq_false_iff]
    exact sound.someTarget
  have targets : targetIssues 0 (markDefault url rule).targets = [] := by
    rw [targetIssues_eq_nil_iff, markDefault, List.forall_mem_map]
    exact sound.targets
  have role : roleCause? none (markDefault url rule).roleSlug = none :=
    roleCause?_none_eq_none_iff.mpr sound.role
  rw [partIssues, page, someTarget, targets, role, defaultCount_markDefault]
  simp

/-- The error of a rule that has several defaults. -/
def severalDefaults (index : Nat) : Issue :=
  ⟨.rule (some index) .targets, .severalDefaults⟩

theorem mem_ruleIssues_settle_iff {index : Nat} (sound : Sound rule) :
    issue ∈ ruleIssues none (some ↑index) (settle environment roleSlug url rule) ↔
      IsFor environment roleSlug rule ∧ 1 < carried url rule ∧ issue = severalDefaults index := by
  by_cases named : IsFor environment roleSlug rule
  · rw [settle_of_isFor named, ruleIssues, partIssues_markDefault sound]
    split
    · next twice => simp [named, twice, severalDefaults]
    · next once => simp [once]
  · have noIssues : partIssues none rule = [] := partIssues_eq_nil_iff.mpr sound
    simp [settle_of_not_isFor named, ruleIssues, noIssues, named]

/-- The errors that come into a rule set without errors are those of the rules that name the
environment and the role and have the URL more than once. -/
theorem mem_errors_enforceSingleDefault_iff
    (noErrors : (validateRuleSet roles isNewOrganization rules).errors = []) :
    issue ∈ (validateRuleSet roles isNewOrganization
        (enforceSingleDefault rules environment roleSlug url)).errors ↔
      ∃ (index : Nat) (rule : Rule), rules[index]? = some rule ∧
        IsFor environment roleSlug rule ∧ 1 < carried url rule ∧
        issue = severalDefaults index := by
  have sound := sound_of_errors_eq_nil noErrors
  rw [errors_validateRuleSet, List.append_eq_nil_iff] at noErrors
  rw [errors_validateRuleSet, enforceSingleDefault_eq, List.isEmpty_map, noErrors.1,
    List.nil_append, ruleSetErrors_eq, mem_ruleSetIssues_zero_iff]
  constructor
  · rintro ⟨index, settled, place, among⟩
    rw [List.getElem?_map, Option.map_eq_some_iff] at place
    obtain ⟨rule, place, rfl⟩ := place
    have ruleSound := sound rule (List.mem_of_getElem? place)
    rw [mem_ruleIssues_settle_iff ruleSound] at among
    exact ⟨index, rule, place, among⟩
  · rintro ⟨index, rule, place, several⟩
    have ruleSound := sound rule (List.mem_of_getElem? place)
    refine ⟨index, settle environment roleSlug url rule, ?_, ?_⟩
    · rw [List.getElem?_map, place]
      rfl
    · rw [mem_ruleIssues_settle_iff ruleSound]
      exact several

/-- Making a URL the only default for an environment and a role brings no error into a rule set
without errors exactly where no rule that names both has the URL more than once. A rule that
does gets several defaults, and there is no other error. -/
theorem errors_enforceSingleDefault
    (noErrors : (validateRuleSet roles isNewOrganization rules).errors = [])
    (environment roleSlug url : String) :
    ((validateRuleSet roles isNewOrganization
          (enforceSingleDefault rules environment roleSlug url)).errors = [] ↔
        ∀ rule ∈ rules, IsFor environment roleSlug rule → carried url rule ≤ 1) ∧
      ∀ issue, issue ∈ (validateRuleSet roles isNewOrganization
          (enforceSingleDefault rules environment roleSlug url)).errors ↔
        ∃ (index : Nat) (rule : Rule), rules[index]? = some rule ∧
          IsFor environment roleSlug rule ∧ 1 < carried url rule ∧
          issue = severalDefaults index := by
  refine ⟨?_, fun _ => mem_errors_enforceSingleDefault_iff noErrors⟩
  simp only [List.eq_nil_iff_forall_not_mem, mem_errors_enforceSingleDefault_iff noErrors]
  constructor
  · intro noIssue rule among named
    obtain ⟨index, place⟩ := List.mem_iff_getElem?.mp among
    by_contra several
    exact noIssue _ ⟨index, rule, place, named, Nat.lt_of_not_le several, rfl⟩
  · rintro once issue ⟨index, rule, place, named, several, -⟩
    exact absurd (once rule (List.mem_of_getElem? place) named) (Nat.not_le.mpr several)

/-- A rule that has one URL twice, and another one once. -/
theorem errors_enforceSingleDefault_of_repeatedUrl :
    let rules : List Rule := [
      { environment := "production", authPageUrl := "https://auth.acme.io"
        targets := [⟨"https://a.acme.io", true⟩, ⟨"https://a.acme.io", false⟩,
          ⟨"https://b.acme.io", false⟩] }]
    (validateRuleSet none false rules).errors = [] ∧
      severalDefaults 0 ∈ (validateRuleSet none false
        (enforceSingleDefault rules "production" "any" "https://a.acme.io")).errors ∧
      (validateRuleSet none false
        (enforceSingleDefault rules "production" "any" "https://b.acme.io")).errors = [] := by
  intro rules
  have noErrors : (validateRuleSet none false rules).errors = [] := by decide +kernel
  have twice := (errors_enforceSingleDefault noErrors "production" "any" "https://a.acme.io").2
  have once := (errors_enforceSingleDefault noErrors "production" "any" "https://b.acme.io").1
  exact ⟨noErrors, (twice _).mpr ⟨0, _, rfl, by decide, by decide, rfl⟩,
    once.mpr (by decide)⟩

/-! ## Groups -/

/-- Whether a rule leaves its environment or its role open, so that it is counted under a name
that it does not have. -/
def LeavesOpen (rule : Rule) : Prop :=
  rule.environment = "" ∨ rule.roleSlug = ""

instance : Decidable (LeavesOpen rule) :=
  inferInstanceAs (Decidable (_ ∨ _))

/-- The name of a group is never empty. -/
theorem ne_empty_of_group_eq (grouped : group rule = (environment, roleSlug)) :
    environment ≠ "" ∧ roleSlug ≠ "" := by
  obtain ⟨rfl, rfl⟩ := countsFor_iff.mpr grouped
  constructor
  · split
    · decide
    · assumption
  · split
    · decide
    · assumption

/-- A rule of a group names its environment and its role unless it leaves one of them open. -/
theorem isFor_iff_of_group_eq (grouped : group rule = (environment, roleSlug)) :
    IsFor environment roleSlug rule ↔ ¬ LeavesOpen rule := by
  have named := ne_empty_of_group_eq grouped
  obtain ⟨sameEnvironment, sameRole⟩ := countsFor_iff.mpr grouped
  rw [LeavesOpen, not_or]
  constructor
  · rintro ⟨rfl, rfl⟩
    exact named
  · rintro ⟨someEnvironment, someRole⟩
    rw [if_neg someEnvironment] at sameEnvironment
    rw [if_neg someRole] at sameRole
    exact ⟨sameEnvironment, sameRole⟩

theorem IsFor.group_eq (named : IsFor environment roleSlug rule)
    (nonempty : environment ≠ "" ∧ roleSlug ≠ "") : group rule = (environment, roleSlug) := by
  obtain ⟨rfl, rfl⟩ := named
  exact countsFor_iff.mp ⟨if_neg nonempty.1, if_neg nonempty.2⟩

/-! ## Defaults of a group -/

/-- How many rules name an environment and a role and have a URL. -/
def carrierCount (rules : List Rule) (environment roleSlug url : String) : Nat :=
  rules.countP fun rule => IsFor environment roleSlug rule ∧ 0 < carried url rule

/-- How many rules of a group have a default but leave their environment or their role open. -/
def openCount (rules : List Rule) (environment roleSlug : String) : Nat :=
  rules.countP fun rule =>
    group rule = (environment, roleSlug) ∧ LeavesOpen rule ∧ rule.hasDefault

/-- A rule of a group has a default afterwards where it has the URL, or where it is passed over
and had one before. -/
theorem defaultingCount_enforceSingleDefault (nonempty : environment ≠ "" ∧ roleSlug ≠ "") :
    defaultingCount (enforceSingleDefault rules environment roleSlug url)
        (environment, roleSlug) =
      carrierCount rules environment roleSlug url + openCount rules environment roleSlug := by
  have split := List.countP_eq_countP_filter_add rules
    (fun rule => group rule = (environment, roleSlug) ∧
      (settle environment roleSlug url rule).hasDefault)
    (fun rule => IsFor environment roleSlug rule)
  have counted : defaultingCount (enforceSingleDefault rules environment roleSlug url)
      (environment, roleSlug) = rules.countP fun rule =>
        group rule = (environment, roleSlug) ∧
          (settle environment roleSlug url rule).hasDefault := by
    rw [defaultingCount_eq, enforceSingleDefault_eq, List.countP_map]
    simp only [Function.comp_def, group_settle]
  rw [counted, split, List.countP_filter, List.countP_filter, carrierCount, openCount]
  congr 1
  · apply List.countP_congr
    intro rule _
    simp only [Bool.and_eq_true, decide_eq_true_eq]
    constructor
    · rintro ⟨⟨-, flagged⟩, named⟩
      rw [settle_of_isFor named, hasDefault_markDefault_iff] at flagged
      exact ⟨named, flagged⟩
    · rintro ⟨named, carries⟩
      rw [settle_of_isFor named, hasDefault_markDefault_iff]
      exact ⟨⟨named.group_eq nonempty, carries⟩, named⟩
  · apply List.countP_congr
    intro rule _
    simp only [Bool.and_eq_true, decide_eq_true_eq, Bool.not_eq_true', decide_eq_false_iff_not]
    constructor
    · rintro ⟨⟨grouped, flagged⟩, other⟩
      rw [settle_of_not_isFor other] at flagged
      rw [isFor_iff_of_group_eq grouped, not_not] at other
      exact ⟨grouped, other, flagged⟩
    · rintro ⟨grouped, leavesOpen, flagged⟩
      have other : ¬ IsFor environment roleSlug rule := by
        rw [isFor_iff_of_group_eq grouped, not_not]
        exact leavesOpen
      rw [settle_of_not_isFor other]
      exact ⟨⟨grouped, flagged⟩, other⟩

/-- There are at most as many rules with a URL as there are targets with it. -/
theorem countP_carried_le (rules : List Rule) :
    (rules.countP fun rule => 0 < carried url rule) ≤
      (rules.flatMap Rule.targets).countP fun target => target.url == url := by
  induction rules with
  | nil => exact Nat.le_refl 0
  | cons rule rest ih =>
      rw [List.countP_cons, List.flatMap_cons, List.countP_append]
      have here : (if decide (0 < carried url rule) = true then 1 else 0) ≤
          rule.targets.countP fun target => target.url == url := by
        split
        · next carries => exact of_decide_eq_true carries
        · exact Nat.zero_le _
      omega

/-- The targets of the rules of a group. -/
def groupTargets (rules : List Rule) (pair : String × String) : List Target :=
  (rules.filter fun rule => group rule = pair).flatMap Rule.targets

theorem carrierCount_le (nonempty : environment ≠ "" ∧ roleSlug ≠ "") :
    carrierCount rules environment roleSlug url ≤
      (groupTargets rules (environment, roleSlug)).countP fun target => target.url == url := by
  refine Nat.le_trans ?_ (countP_carried_le _)
  rw [carrierCount, List.countP_filter]
  apply List.countP_mono_left
  intro rule _ both
  obtain ⟨named, carries⟩ := of_decide_eq_true both
  rw [Bool.and_eq_true]
  exact ⟨decide_eq_true carries, decide_eq_true (named.group_eq nonempty)⟩

/-! ## The warning afterwards -/

/-- Where there is a warning about a group, making a URL the only default for the environment
and the role that it names leaves the warning exactly where two rules have a default then:
those that name both and have the URL, and those of the group that leave one of them open and
had a default. So the warning is gone if the URL is that of one target of the group and no rule
that has a default leaves anything open. -/
theorem competition_enforceSingleDefault
    (warned : competition (environment, roleSlug) ∈
      (validateRuleSet roles isNewOrganization rules).warnings) (url : String) :
    (competition (environment, roleSlug) ∈ (validateRuleSet roles isNewOrganization
          (enforceSingleDefault rules environment roleSlug url)).warnings ↔
        2 ≤ carrierCount rules environment roleSlug url +
          openCount rules environment roleSlug) ∧
      (((groupTargets rules (environment, roleSlug)).countP fun target => target.url == url) = 1 →
        (∀ rule ∈ rules, group rule = (environment, roleSlug) → rule.hasDefault →
          ¬ LeavesOpen rule) →
        competition (environment, roleSlug) ∉ (validateRuleSet roles isNewOrganization
          (enforceSingleDefault rules environment roleSlug url)).warnings) := by
  rw [competition_mem_warnings_iff] at warned
  obtain ⟨rule, -, grouped⟩ := comesUp_of_defaultingCount (Nat.zero_lt_of_lt warned)
  have nonempty := ne_empty_of_group_eq grouped
  rw [competition_mem_warnings_iff, defaultingCount_enforceSingleDefault nonempty]
  refine ⟨Iff.rfl, fun once closed => Nat.not_le.mpr ?_⟩
  have carriers : carrierCount rules environment roleSlug url ≤ _ := carrierCount_le nonempty
  have noneOpen : openCount rules environment roleSlug = 0 := by
    rw [openCount, List.countP_eq_zero]
    intro rule among counted
    obtain ⟨grouped, leavesOpen, flagged⟩ := of_decide_eq_true counted
    exact closed rule among grouped flagged leavesOpen
  omega

/-- Two rules with a default that leave the environment open, and two that name it. -/
theorem competition_enforceSingleDefault_of_openRules :
    let ruleFor := fun (environment page home : String) =>
      ({ environment, authPageUrl := page, targets := [⟨home, true⟩] } : Rule)
    let rules := [
      ruleFor "" "https://auth.acme.io" "https://a.acme.io",
      ruleFor "" "https://login.acme.io" "https://b.acme.io",
      ruleFor "production" "https://auth.acme.io" "https://c.acme.io",
      ruleFor "production" "https://login.acme.io" "https://d.acme.io"]
    competition ("unknown", "any") ∈ (validateRuleSet none false rules).warnings ∧
      ((groupTargets rules ("unknown", "any")).countP
        fun target => target.url == "https://a.acme.io") = 1 ∧
      competition ("unknown", "any") ∈ (validateRuleSet none false
        (enforceSingleDefault rules "unknown" "any" "https://a.acme.io")).warnings ∧
      competition ("production", "any") ∈ (validateRuleSet none false rules).warnings ∧
      competition ("production", "any") ∉ (validateRuleSet none false
        (enforceSingleDefault rules "production" "any" "https://c.acme.io")).warnings := by
  intro ruleFor rules
  have unnamed : competition ("unknown", "any") ∈ (validateRuleSet none false rules).warnings :=
    competition_mem_warnings_iff.mpr (by decide)
  have named : competition ("production", "any") ∈ (validateRuleSet none false rules).warnings :=
    competition_mem_warnings_iff.mpr (by decide)
  exact ⟨unnamed, by decide,
    (competition_enforceSingleDefault unnamed "https://a.acme.io").1.mpr (by decide), named,
    (competition_enforceSingleDefault named "https://c.acme.io").2 (by decide) (by decide)⟩

end AuthRedirect.RuleSet
