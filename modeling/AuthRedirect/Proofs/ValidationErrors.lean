import AuthRedirect.Validation
import Mathlib.Data.List.Basic

/-!
The errors of a rule set, apart from its warnings. An error concerns one rule: it
does not depend on the other rules, nor on which roles are known. So the errors of
rules that are put behind others are their own, further down.
-/

namespace AuthRedirect.Validation

open AuthRedirect.Text

variable {roles : Option (List String)}

/-! ## The errors of one rule -/

/-- An unknown role is no error, so the known roles make no difference to one. -/
theorem filter_roleCause? (roles : Option (List String)) (slug : String) :
    (roleCause? roles slug).filter Cause.isError = roleCause? none slug := by
  unfold roleCause?
  split
  · rfl
  · split
    · rfl
    · split <;> rfl

/-- The errors of a rule do not depend on the known roles. -/
theorem errors_ruleIssues (index : Option Int) (rule : Rule) :
    (ruleIssues roles index rule).filter (fun issue => issue.isError) =
      (ruleIssues none index rule).filter fun issue => issue.isError := by
  -- The role comes last, and only there do the roles matter.
  have role : ∀ cause : Option Cause,
      ((cause.toList.map fun cause => (⟨.rule index .roleSlug, cause⟩ : Issue)).filter
        fun issue => issue.isError) =
      (cause.filter Cause.isError).toList.map fun cause => ⟨.rule index .roleSlug, cause⟩ := by
    intro cause
    cases cause with
    | none => rfl
    | some cause => cases cause <;> rfl
  simp only [ruleIssues, partIssues, List.map_append, List.filter_append, List.map_map,
    Function.comp_def, role, filter_roleCause?]

/-! ## The errors of a rule set -/

/-- The errors of rules from the given index on. -/
def ruleSetErrors (index : Nat) : List Rule → List Issue
  | [] => []
  | rule :: rest =>
      (validateRule none (some index) rule).errors ++ ruleSetErrors (index + 1) rest

theorem ruleSetErrors_append (index : Nat) (rules more : List Rule) :
    ruleSetErrors index (rules ++ more) =
      ruleSetErrors index rules ++ ruleSetErrors (index + rules.length) more := by
  induction rules generalizing index with
  | nil => rfl
  | cons rule rest ih =>
      rw [List.cons_append, ruleSetErrors, ruleSetErrors, ih, List.append_assoc,
        List.length_cons, Nat.add_assoc, Nat.add_comm 1]

theorem errors_ruleSetIssues (roles : Option (List String)) (index : Nat) (rules : List Rule) :
    (ruleSetIssues roles index rules).filter (fun issue => issue.isError) =
      ruleSetErrors index rules := by
  induction rules generalizing index with
  | nil => rfl
  | cons rule rest ih =>
      rw [ruleSetIssues, List.filter_append, ih, errors_ruleIssues]
      rfl

/-- That several defaults compete is no error. -/
theorem errors_competitionIssues (rules : List Rule) :
    (competitionIssues rules).filter (fun issue => issue.isError) = [] := by
  rw [List.filter_eq_nil_iff]
  intro issue among
  obtain ⟨entry, -, rfl⟩ := List.mem_map.mp among
  exact Bool.false_ne_true

/-- The errors of a rule set are those of its rules, one after the other, behind the
one for having none. -/
theorem errors_validateRuleSet (roles : Option (List String)) (isNewOrganization : Bool)
    (rules : List Rule) :
    (validateRuleSet roles isNewOrganization rules).errors =
      (if isNewOrganization && rules.isEmpty then [⟨.ruleSet, .noRules⟩] else []) ++
        ruleSetErrors 0 rules := by
  have none : ∀ missing : Bool,
      (if missing then [(⟨.ruleSet, .noRules⟩ : Issue)] else []).filter
          (fun issue => issue.isError) =
        if missing then [⟨.ruleSet, .noRules⟩] else [] := by decide
  simp only [validateRuleSet, Report.ofIssues, List.filter_append, none, errors_ruleSetIssues,
    errors_competitionIssues, List.append_nil]

/-! ## Sound URLs -/

section Urls

variable {missing slash : Cause} {url : String}

theorem urlCause?_eq_none_iff :
    urlCause? missing slash url = none ↔
      blank url = false ∧ url.toList.getLast? ≠ some '/' := by
  unfold urlCause?
  split
  · next isBlank => simp [isBlank]
  · next notBlank =>
      split
      · next atEnd => simp [atEnd]
      · next notAtEnd => simp [notBlank, notAtEnd]

/-- What ends with a sound URL is sound. -/
theorem urlCause?_append (sound : urlCause? missing slash url = none) (front : String) :
    urlCause? missing slash (front ++ url) = none := by
  rw [urlCause?_eq_none_iff] at sound ⊢
  obtain ⟨notBlank, noSlash⟩ := sound
  have some : url.toList ≠ [] := by
    intro empty
    rw [blank, empty] at notBlank
    cases notBlank
  rw [blank, allBlank] at notBlank
  rw [blank, allBlank, String.toList_append, List.all_append, notBlank, Bool.and_false,
    List.getLast?_append_of_ne_nil _ some]
  exact ⟨rfl, noSlash⟩

/-- A URL that is not blank has a problem where it ends with a slash. -/
theorem urlCause?_of_not_blank (notBlank : blank url = false) :
    urlCause? missing slash url =
      if url.toList.getLast? = some '/' then some slash else none := by
  rw [urlCause?, notBlank, if_neg Bool.false_ne_true]

/-- The problem of a URL is that it is missing or that it ends with a slash. -/
theorem eq_or_eq_of_urlCause? {cause : Cause} (found : urlCause? missing slash url = some cause) :
    cause = missing ∨ cause = slash := by
  unfold urlCause? at found
  split at found
  · exact .inl (Option.some.inj found).symm
  · split at found
    · exact .inr (Option.some.inj found).symm
    · cases found

end Urls

/-! ## Rules without errors -/

/-- A URL that can be stored: it is not blank and does not end with a slash. -/
def SoundUrl (url : String) : Prop :=
  blank url = false ∧ url.toList.getLast? ≠ some '/'

/-- What a rule has to meet to have no errors. -/
structure Sound (rule : Rule) : Prop where
  authPage : SoundUrl rule.authPageUrl
  someTarget : rule.targets ≠ []
  targets : ∀ target ∈ rule.targets, SoundUrl target.url
  oneDefault : defaultCount rule ≤ 1
  role : blank rule.roleSlug = false

variable {rule : Rule} {rules : List Rule} {part : Part} {cause : Cause}

theorem targetIssues_eq_nil_iff {position : Nat} {targets : List Target} :
    targetIssues position targets = [] ↔ ∀ target ∈ targets, SoundUrl target.url := by
  induction targets generalizing position with
  | nil => simp [targetIssues]
  | cons target rest ih =>
      rw [targetIssues, List.append_eq_nil_iff, ih, List.map_eq_nil_iff,
        Option.toList_eq_nil_iff, urlCause?_eq_none_iff, List.forall_mem_cons, SoundUrl]

theorem roleCause?_none_eq_none_iff {slug : String} :
    roleCause? none slug = none ↔ blank slug = false := by
  unfold roleCause?
  split
  · next isBlank => simp [isBlank]
  · next notBlank => simp [notBlank]

/-- A rule has no problem, apart from its role being unknown, where it meets the
requirements one by one. -/
theorem partIssues_eq_nil_iff : partIssues none rule = [] ↔ Sound rule := by
  unfold partIssues
  simp only [List.append_eq_nil_iff, List.map_eq_nil_iff, Option.toList_eq_nil_iff,
    urlCause?_eq_none_iff, targetIssues_eq_nil_iff, roleCause?_none_eq_none_iff]
  constructor
  · rintro ⟨⟨⟨⟨authPage, noTargets⟩, targets⟩, several⟩, role⟩
    have someTarget : rule.targets ≠ [] := by
      rintro none
      rw [none] at noTargets
      cases noTargets
    have oneDefault : defaultCount rule ≤ 1 := by
      by_contra more
      rw [if_pos (Nat.lt_of_not_le more)] at several
      cases several
    exact ⟨authPage, someTarget, targets, oneDefault, role⟩
  · intro sound
    have someTarget : rule.targets.isEmpty = false :=
      List.isEmpty_eq_false_iff.mpr sound.someTarget
    refine ⟨⟨⟨⟨sound.authPage, ?_⟩, sound.targets⟩, ?_⟩, sound.role⟩
    · rw [someTarget, if_neg Bool.false_ne_true]
    · exact if_neg (Nat.not_lt.mpr sound.oneDefault)

theorem isError_of_mem_targetIssues {position : Nat} {targets : List Target}
    (among : (part, cause) ∈ targetIssues position targets) : cause.isError = true := by
  induction targets generalizing position with
  | nil => cases among
  | cons target rest ih =>
      rcases List.mem_append.mp among with first | later
      · obtain ⟨found, problem, same⟩ := List.mem_map.mp first
        obtain ⟨-, rfl⟩ := Prod.mk.inj same
        rcases eq_or_eq_of_urlCause? (Option.mem_toList.mp problem) with rfl | rfl
        · rfl
        · rfl
      · exact ih later

/-- Where no roles are known of, every problem of a rule is an error. -/
theorem isError_of_mem_partIssues (among : (part, cause) ∈ partIssues none rule) :
    cause.isError = true := by
  unfold partIssues at among
  simp only [List.mem_append] at among
  rcases among with (((authPage | noTargets) | targets) | several) | role
  · obtain ⟨found, problem, same⟩ := List.mem_map.mp authPage
    obtain ⟨-, rfl⟩ := Prod.mk.inj same
    rcases eq_or_eq_of_urlCause? (Option.mem_toList.mp problem) with rfl | rfl
    · rfl
    · rfl
  · split at noTargets
    · obtain ⟨-, rfl⟩ := Prod.mk.inj (List.mem_singleton.mp noTargets)
      rfl
    · cases noTargets
  · exact isError_of_mem_targetIssues targets
  · split at several
    · obtain ⟨-, rfl⟩ := Prod.mk.inj (List.mem_singleton.mp several)
      rfl
    · cases several
  · obtain ⟨found, problem, same⟩ := List.mem_map.mp role
    obtain ⟨-, rfl⟩ := Prod.mk.inj same
    have missing : found = .missingRole := by
      have known := Option.mem_toList.mp problem
      unfold roleCause? at known
      split at known
      · exact (Option.some.inj known).symm
      · simp at known
    rw [missing]
    rfl

/-- Where no roles are known of, the errors of a rule are its problems. -/
theorem errors_validateRule (index : Option Int) (rule : Rule) :
    (validateRule none index rule).errors = ruleIssues none index rule := by
  rw [validateRule, Report.ofIssues, List.filter_eq_self]
  intro issue among
  obtain ⟨⟨part, cause⟩, problem, rfl⟩ := List.mem_map.mp among
  exact isError_of_mem_partIssues problem

/-- A rule has no errors exactly where it is sound. -/
theorem errors_validateRule_eq_nil_iff {index : Option Int} :
    (validateRule none index rule).errors = [] ↔ Sound rule := by
  rw [errors_validateRule, ruleIssues, List.map_eq_nil_iff, partIssues_eq_nil_iff]

/-! ## Problems at their places -/

theorem ruleSetErrors_eq (index : Nat) (rules : List Rule) :
    ruleSetErrors index rules = ruleSetIssues none index rules := by
  induction rules generalizing index with
  | nil => rfl
  | cons rule rest ih => rw [ruleSetErrors, ruleSetIssues, errors_validateRule, ih]

theorem mem_ruleSetIssues_iff {start : Nat} {issue : Issue} :
    issue ∈ ruleSetIssues roles start rules ↔
      ∃ offset rule, rules[offset]? = some rule ∧
        issue ∈ ruleIssues roles (some ↑(start + offset)) rule := by
  induction rules generalizing start with
  | nil => simp [ruleSetIssues]
  | cons first rest ih =>
      rw [ruleSetIssues, List.mem_append, ih]
      constructor
      · rintro (here | ⟨offset, rule, place, later⟩)
        · exact ⟨0, first, rfl, here⟩
        · refine ⟨offset + 1, rule, place, ?_⟩
          rwa [Nat.add_comm offset, ← Nat.add_assoc]
      · rintro ⟨offset, rule, place, among⟩
        cases offset with
        | zero =>
            cases place
            exact .inl among
        | succ offset =>
            refine .inr ⟨offset, rule, place, ?_⟩
            rwa [Nat.add_comm offset, ← Nat.add_assoc] at among

/-- The problems of the rules of a rule set, each at the index of its rule. -/
theorem mem_ruleSetIssues_zero_iff {issue : Issue} :
    issue ∈ ruleSetIssues roles 0 rules ↔
      ∃ (index : Nat) (rule : Rule), rules[index]? = some rule ∧
        issue ∈ ruleIssues roles (some index) rule := by
  simp only [mem_ruleSetIssues_iff, Nat.zero_add]

/-! ## Rule sets without errors -/

theorem ruleSetErrors_eq_nil_iff {index : Nat} :
    ruleSetErrors index rules = [] ↔ ∀ rule ∈ rules, Sound rule := by
  induction rules generalizing index with
  | nil => simp [ruleSetErrors]
  | cons rule rest ih =>
      rw [ruleSetErrors, List.append_eq_nil_iff, errors_validateRule_eq_nil_iff, ih,
        List.forall_mem_cons]

/-- A rule set without errors has sound rules only. -/
theorem sound_of_errors_eq_nil {isNewOrganization : Bool}
    (noErrors : (validateRuleSet roles isNewOrganization rules).errors = []) :
    ∀ rule ∈ rules, Sound rule := by
  rw [errors_validateRuleSet] at noErrors
  exact ruleSetErrors_eq_nil_iff.mp (List.append_eq_nil_iff.mp noErrors).2

end AuthRedirect.Validation
