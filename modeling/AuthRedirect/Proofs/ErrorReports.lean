import AuthRedirect.Proofs.IssuePlaces
import AuthRedirect.Proofs.ValidationErrors
import Mathlib.Data.List.Nodup

/-!
The errors of a rule set as a whole. A part of a rule has one error at most, and different
places have different paths, so a path leads to one error. Rules that are put behind others
have the errors that they have alone, with their indices counted on. `rule_errors_exact` says
so, and which rule sets have no errors.
-/

namespace AuthRedirect.Validation

variable {roles : Option (List String)} {rules : List Rule} {rule : Rule} {issue : Issue}

/-! ## Parts with errors -/

section Parts

variable {part : Part} {cause : Cause}

theorem parts_toList (found : Option Cause) :
    ((found.toList.map fun cause => (part, cause)).map Prod.fst).Sublist [part] := by
  cases found with
  | none => exact List.nil_sublist _
  | some cause => exact List.Sublist.refl _

theorem parts_ite (faulty : Prop) [Decidable faulty] :
    ((if faulty then [(part, cause)] else []).map Prod.fst).Sublist [part] := by
  split
  · exact List.Sublist.refl _
  · exact List.nil_sublist _

theorem parts_targetIssues (position : Nat) (targets : List Target) :
    ((targetIssues position targets).map Prod.fst).Sublist
      ((List.range' position targets.length).map Part.targetUrl) := by
  induction targets generalizing position with
  | nil => exact List.Sublist.refl _
  | cons target rest ih =>
      rw [targetIssues, List.map_append, List.length_cons, List.range'_succ, List.map_cons]
      exact (parts_toList _).append (ih _)

/-- The parts of a rule in the order in which its errors are listed. That it has no targets
comes before what concerns the targets, and that it has several defaults comes behind. -/
def listedParts (rule : Rule) : List Part :=
  if rule.targets.isEmpty then [.authPageUrl, .targets, .roleSlug]
  else [.authPageUrl] ++ (List.range' 0 rule.targets.length).map .targetUrl ++
    [.targets, .roleSlug]

theorem nodup_listedParts (rule : Rule) : (listedParts rule).Nodup := by
  have positions : ((List.range' 0 rule.targets.length).map Part.targetUrl).Nodup :=
    List.Nodup.map (fun _ _ same => Part.targetUrl.inj same) List.nodup_range'
  unfold listedParts
  split
  · decide
  · simp [positions, List.nodup_append]

theorem parts_partIssues (rule : Rule) :
    ((partIssues none rule).map Prod.fst).Sublist (listedParts rule) := by
  unfold partIssues listedParts
  simp only [List.map_append]
  split
  · next empty =>
      have noTargets : rule.targets = [] := List.isEmpty_iff.mp empty
      have few : ¬ 1 < defaultCount rule := by simp [defaultCount, noTargets]
      rw [if_neg few, noTargets]
      simp only [targetIssues, List.map_nil, List.append_nil]
      exact ((parts_toList _).append (List.Sublist.refl _)).append (parts_toList _)
  · rw [List.map_nil, List.append_nil, List.append_assoc]
    exact ((parts_toList _).append (parts_targetIssues 0 _)).append
      ((parts_ite _).append (parts_toList _))

end Parts

/-! ## Places of errors -/

theorem exists_part_of_mem_ruleIssues {index : Option Int}
    (among : issue ∈ ruleIssues roles index rule) : ∃ part, issue.place = .rule index part := by
  obtain ⟨⟨part, cause⟩, -, rfl⟩ := List.mem_map.mp among
  exact ⟨part, rfl⟩

theorem exists_part_of_mem_ruleSetIssues {start : Nat}
    (among : issue ∈ ruleSetIssues roles start rules) :
    ∃ (index : Nat) (part : Part), start ≤ index ∧ issue.place = .rule (some index) part := by
  obtain ⟨offset, rule, -, ofRule⟩ := mem_ruleSetIssues_iff.mp among
  obtain ⟨part, place⟩ := exists_part_of_mem_ruleIssues ofRule
  exact ⟨start + offset, part, Nat.le_add_right _ _, place⟩

/-- No two errors of a rule are at one place. -/
theorem nodup_places_ruleIssues (index : Option Int) (rule : Rule) :
    ((ruleIssues none index rule).map Issue.place).Nodup := by
  have places : (ruleIssues none index rule).map Issue.place =
      ((partIssues none rule).map Prod.fst).map (Place.rule index) := by
    simp only [ruleIssues, List.map_map, Function.comp_def]
  have parts := (nodup_listedParts rule).sublist (parts_partIssues rule)
  rw [places]
  exact parts.map fun _ _ same => (Place.rule.inj same).2

/-- No two errors of rules that stand in a row are at one place. -/
theorem nodup_places_ruleSetIssues (start : Nat) (rules : List Rule) :
    ((ruleSetIssues none start rules).map Issue.place).Nodup := by
  induction rules generalizing start with
  | nil => exact List.nodup_nil
  | cons rule rest ih =>
      rw [ruleSetIssues, List.map_append, List.nodup_append']
      refine ⟨nodup_places_ruleIssues _ _, ih _, ?_⟩
      rintro place here there
      obtain ⟨issue, ofRule, rfl⟩ := List.mem_map.mp here
      obtain ⟨issue', ofRest, same⟩ := List.mem_map.mp there
      obtain ⟨part, first⟩ := exists_part_of_mem_ruleIssues ofRule
      obtain ⟨index, part', behind, later⟩ := exists_part_of_mem_ruleSetIssues ofRest
      rw [first, later] at same
      have indices := (Place.rule.inj same).1
      simp only [Option.some.injEq, Int.natCast_inj] at indices
      omega

/-- No two errors of a rule set have the same path. -/
theorem nodup_paths_validateRuleSet (isNewOrganization : Bool) (rules : List Rule) :
    ((validateRuleSet roles isNewOrganization rules).errors.map Issue.path).Nodup := by
  rw [errors_validateRuleSet, ruleSetErrors_eq]
  split
  · next missing =>
      rw [Bool.and_eq_true, List.isEmpty_iff] at missing
      rw [missing.2]
      exact List.nodup_singleton _
  · have paths : (ruleSetIssues none 0 rules).map Issue.path =
        ((ruleSetIssues none 0 rules).map Issue.place).map Place.text := by
      rw [List.map_map]
      rfl
    have inSet : ∀ place ∈ (ruleSetIssues none 0 rules).map Issue.place,
        place ∈ Place.ofRuleSet := by
      intro place among
      obtain ⟨issue, listed, rfl⟩ := List.mem_map.mp among
      obtain ⟨index, part, -, place⟩ := exists_part_of_mem_ruleSetIssues listed
      exact .inr ⟨index, part, place⟩
    rw [List.nil_append, paths]
    exact (nodup_places_ruleSetIssues 0 rules).map_on fun place here other there same =>
      Place.text_injOn (inSet place here) (inSet other there) same

/-! ## Rules behind others -/

/-- The same place of a rule that stands `count` rules further down. -/
def Place.later (count : Nat) : Place → Place
  | .rule (some index) part => .rule (some (index + count)) part
  | place => place

/-- The same problem of a rule that stands `count` rules further down. -/
def Issue.later (count : Nat) (issue : Issue) : Issue :=
  { issue with place := issue.place.later count }

theorem ruleIssues_later (roles : Option (List String)) (index count : Nat) (rule : Rule) :
    ruleIssues roles (some ↑(index + count)) rule =
      (ruleIssues roles (some ↑index) rule).map (Issue.later count) := by
  simp only [ruleIssues, List.map_map, Function.comp_def, Issue.later, Place.later,
    Int.natCast_add]

theorem ruleSetIssues_later (roles : Option (List String)) (start count : Nat)
    (rules : List Rule) :
    ruleSetIssues roles (start + count) rules =
      (ruleSetIssues roles start rules).map (Issue.later count) := by
  induction rules generalizing start with
  | nil => rfl
  | cons rule rest ih =>
      rw [ruleSetIssues, ruleSetIssues, List.map_append, ruleIssues_later, Nat.add_right_comm, ih]

/-- Further down, the index in the path to an error is larger. -/
theorem exists_path_later {start : Nat} (count : Nat)
    (among : issue ∈ ruleSetIssues roles start rules) :
    ∃ (index : Nat) (rest : String),
      issue.path = "redirectionRules[" ++ toString index ++ "]." ++ rest ∧
        (issue.later count).path =
          "redirectionRules[" ++ toString (index + count) ++ "]." ++ rest := by
  obtain ⟨index, part, -, place⟩ := exists_part_of_mem_ruleSetIssues among
  refine ⟨index, part.text, ?_, ?_⟩
  · rw [Issue.path, place]
    rfl
  · rw [Issue.path, Issue.later, place]
    rfl

/-! ## Rule sets with errors -/

/-- A rule set has no errors exactly where it is not missing and each rule is sound. The known
roles make no difference to the errors. No two errors have one path. Where there need be no
rules, the errors of rules behind others are their own, with the index in the path counted on
from there. -/
theorem rule_errors_exact (roles : Option (List String)) (isNewOrganization : Bool)
    (rules : List Rule) :
    ((validateRuleSet roles isNewOrganization rules).errors = [] ↔
        (rules ≠ [] ∨ isNewOrganization = false) ∧ ∀ rule ∈ rules, Sound rule) ∧
      (∀ others, (validateRuleSet others isNewOrganization rules).errors =
        (validateRuleSet roles isNewOrganization rules).errors) ∧
      ((validateRuleSet roles isNewOrganization rules).errors.map Issue.path).Nodup ∧
      ∀ more,
        (validateRuleSet roles false (rules ++ more)).errors =
            (validateRuleSet roles false rules).errors ++
              (validateRuleSet roles false more).errors.map (Issue.later rules.length) ∧
          ∀ issue ∈ (validateRuleSet roles false more).errors,
            ∃ (index : Nat) (rest : String),
              issue.path = "redirectionRules[" ++ toString index ++ "]." ++ rest ∧
                (issue.later rules.length).path =
                  "redirectionRules[" ++ toString (index + rules.length) ++ "]." ++ rest := by
  refine ⟨?_, ?_, nodup_paths_validateRuleSet isNewOrganization rules, ?_⟩
  · rw [errors_validateRuleSet, List.append_eq_nil_iff, ruleSetErrors_eq_nil_iff]
    refine and_congr_left fun _ => ?_
    cases isNewOrganization <;> cases rules <;> simp
  · intro others
    rw [errors_validateRuleSet, errors_validateRuleSet]
  · intro more
    have noneMissing : ∀ rules, (validateRuleSet roles false rules).errors =
        ruleSetIssues none 0 rules := by
      intro rules
      rw [errors_validateRuleSet, ruleSetErrors_eq]
      rfl
    constructor
    · rw [noneMissing rules, noneMissing more, ← ruleSetIssues_later, errors_validateRuleSet,
        ruleSetErrors_append, ruleSetErrors_eq, ruleSetErrors_eq]
      rfl
    · intro issue among
      rw [noneMissing] at among
      exact exists_path_later _ among

end AuthRedirect.Validation
