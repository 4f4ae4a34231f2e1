import AuthRedirect.OrganizationEdit
import AuthRedirect.Proofs.ProvisioningRuns
import AuthRedirect.Proofs.RuleDocuments

/-!
Locked rules under edits of any kind. An edit puts rules behind the others, of which only
those that it brings itself may be locked, or it takes out one rule that is not locked.
Which targets are flagged as the default is left open: one URL is made the only default
of locked rules too. So the locked rules of an organization are those that it had at
first, followed by those that were added, however many edits there were.
-/

namespace AuthRedirect

/-! ## Rules without their default flags -/

/-- The rule with no target flagged as the default. -/
def Rule.unflagged (rule : Rule) : Rule :=
  { rule with targets := rule.targets.map fun target => { target with isDefault := false } }

namespace RuleSet

/-- The rules with no target flagged as the default. -/
def unflagged (rules : List Rule) : List Rule :=
  rules.map Rule.unflagged

/-- The locked rules in order, with no target flagged as the default. -/
def lockedRules (rules : List Rule) : List Rule :=
  (unflagged rules).filter fun rule => rule.locked

variable {rules rest more front back : List Rule} {rule : Rule} {index : Int} {position : Nat}

theorem unflagged_markDefault (url : String) (rule : Rule) :
    (markDefault url rule).unflagged = rule.unflagged := by
  simp [Rule.unflagged, markDefault, Function.comp_def]

/-- Making one URL the only default changes nothing but default flags. -/
theorem unflagged_enforceSingleDefault (rules : List Rule) (environment roleSlug url : String) :
    unflagged (enforceSingleDefault rules environment roleSlug url) = unflagged rules := by
  rw [unflagged, enforceSingleDefault, List.map_map]
  apply List.map_congr_left
  intro rule _
  rw [Function.comp_apply]
  split
  · exact unflagged_markDefault url rule
  · rfl

theorem lockedRules_congr (same : unflagged rest = unflagged rules ++ unflagged more) :
    lockedRules rest = lockedRules rules ++ lockedRules more := by
  rw [lockedRules, same, List.filter_append]
  rfl

theorem lockedRules_append (rules more : List Rule) :
    lockedRules (rules ++ more) = lockedRules rules ++ lockedRules more :=
  lockedRules_congr List.map_append

theorem lockedRules_eq_nil (unlocked : ∀ rule ∈ rules, rule.locked = false) :
    lockedRules rules = [] := by
  rw [lockedRules, List.filter_eq_nil_iff]
  intro rule among
  obtain ⟨given, inRules, rfl⟩ := List.mem_map.mp among
  have free : given.unflagged.locked = false := unlocked given inRules
  simp [free]

theorem lockedRules_without (unlocked : rule.locked = false) (front back : List Rule) :
    lockedRules (front ++ rule :: back) = lockedRules (front ++ back) := by
  have alone : lockedRules [rule] = [] := lockedRules_eq_nil (by simpa using unlocked)
  have split : front ++ rule :: back = (front ++ [rule]) ++ back := by simp
  rw [split, lockedRules_append, lockedRules_append, alone, List.append_nil, lockedRules_append]

/-! ## Removing a rule -/

/-- Whether an index stands for the place behind `before` of `count` rules: it counts
from the front or, as a negative number, from the end. -/
def Addresses (index : Int) (before count : Nat) : Prop :=
  index = before ∨ index = before - count

theorem position?_eq_some_iff {count : Nat} :
    position? count index = some position ↔ position < count ∧ Addresses index position count := by
  unfold position? Addresses
  dsimp only
  split
  · rw [Option.ite_none_right_eq_some, Option.some.injEq]
    omega
  · rw [Option.ite_none_right_eq_some, Option.some.injEq]
    omega

/-- A rule is removed exactly when it stands where the index says and is not locked. All
the others stay, in order. -/
theorem remove_eq_ok_iff :
    remove rules index = .ok rest ↔
      ∃ front rule back, rules = front ++ rule :: back ∧ rest = front ++ back ∧
        rule.locked = false ∧ Addresses index front.length rules.length := by
  constructor
  · intro removed
    unfold remove at removed
    split at removed
    · cases removed
    · next position found =>
        obtain ⟨-, addresses⟩ := position?_eq_some_iff.mp found
        split at removed
        · cases removed
        · next rule place =>
            obtain ⟨front, back, rfl, rfl⟩ := getElem?_eq_some_iff_split.mp place
            split at removed
            · cases removed
            · next unlocked =>
                cases removed
                refine ⟨front, rule, back, rfl, ?_, by simpa using unlocked, addresses⟩
                rw [List.eraseIdx_append_of_length_le (Nat.le_refl _), Nat.sub_self,
                  List.eraseIdx_cons_zero]
  · rintro ⟨front, rule, back, rfl, rfl, unlocked, addresses⟩
    have inside : front.length < (front ++ rule :: back).length := by simp
    have place : (front ++ rule :: back)[front.length]? = some rule := by simp
    unfold remove
    rw [position?_eq_some_iff.mpr ⟨inside, addresses⟩]
    dsimp only
    rw [place]
    dsimp only
    rw [if_neg (by simp [unlocked]), List.eraseIdx_append_of_length_le (Nat.le_refl _),
      Nat.sub_self, List.eraseIdx_cons_zero]

end RuleSet

/-- No added rule is locked. -/
theorem Provisioning.lockedRules_provision (settings : Settings) (rules : List Rule)
    (url : Option String) :
    RuleSet.lockedRules (added settings rules url) = [] := by
  apply RuleSet.lockedRules_eq_nil
  intro rule among
  obtain ⟨_, _, _, rfl⟩ := exists_standardRule_of_mem_added among
  rfl

/-! ## One edit -/

namespace OrganizationEdit

open RuleSet (unflagged lockedRules Addresses)

/-- The rules that an edit brings itself. -/
def brought : OrganizationEdit → List Rule
  | .addRule rule => [rule]
  | _ => []

/-- What an edit does to rules, whatever their default flags: it puts rules behind them,
of which only those that it brings may be locked, or it takes out the one that stands where
its index says, which is not locked. -/
inductive Outcome (edit : OrganizationEdit) (rules : List Rule) : List Rule → Prop
  | extended {rest : List Rule} (more : List Rule) :
    unflagged rest = unflagged rules ++ unflagged more →
    lockedRules more = lockedRules edit.brought → Outcome edit rules rest
  | shortened {front back : List Rule} {rule : Rule} {index : Int} :
    edit = .removeRule index → rules = front ++ rule :: back → rule.locked = false →
    Addresses index front.length rules.length → Outcome edit rules (front ++ back)

variable {settings : Settings} {organization edited : Organization} {edit : OrganizationEdit}

/-- An edit that leaves the rules as they are up to default flags. -/
theorem Outcome.unchanged {rules rest : List Rule} (same : unflagged rest = unflagged rules)
    (nothing : edit.brought = []) : Outcome edit rules rest :=
  .extended [] (same.trans (List.append_nil _).symm) (by rw [nothing])

theorem Outcome.provisioned (nothing : edit.brought = []) (rules : List Rule)
    (url : Option String) : Outcome edit rules (Provisioning.provision settings rules url) :=
  .extended (Provisioning.added settings rules url) List.map_append
    (by rw [Provisioning.lockedRules_provision, nothing]; rfl)

/-- A removal succeeds where the rules can be without the one at its index. -/
theorem attempt_removeRule_eq_ok_iff {index : Int} :
    attempt settings organization (.removeRule index) = .ok edited ↔
      ∃ rules, RuleSet.remove organization.redirectionRules index = .ok rules ∧
        edited = { organization with redirectionRules := rules } := by
  simp only [attempt]
  cases RuleSet.remove organization.redirectionRules index with
  | error error => simp [Except.mapError, bind, Except.bind]
  | ok rules => simp [Except.mapError, bind, Except.bind, pure, Except.pure, eq_comm]

theorem outcome_of_attempt (done : edit.attempt settings organization = .ok edited) :
    Outcome edit organization.redirectionRules edited.redirectionRules := by
  cases edit with
  | metadata edit =>
      cases done
      exact .provisioned rfl _ _
  | provision authServerUrl =>
      cases done
      exact .provisioned rfl _ _
  | removeRule index =>
      obtain ⟨rules, removed, rfl⟩ := attempt_removeRule_eq_ok_iff.mp done
      obtain ⟨front, rule, back, split, rfl, unlocked, addresses⟩ :=
        RuleSet.remove_eq_ok_iff.mp removed
      exact .shortened rfl split unlocked addresses
  | enforceSingleDefault environment roleSlug url =>
      cases done
      exact .unchanged (RuleSet.unflagged_enforceSingleDefault _ _ _ _) rfl
  | recode =>
      simp only [attempt, Document.decodeRules_encodeRules] at done
      cases done
      exact .unchanged rfl rfl
  | addRule rule =>
      cases done
      exact .extended [rule] List.map_append rfl

/-- An edit that fails brings nothing. -/
theorem brought_of_attempt {failure : Failure}
    (failed : edit.attempt settings organization = .error failure) : edit.brought = [] := by
  cases edit with
  | addRule rule => cases failed
  | _ => rfl

theorem outcome_apply (settings : Settings) (organization : Organization)
    (edit : OrganizationEdit) :
    Outcome edit organization.redirectionRules
      (edit.apply settings organization).redirectionRules := by
  unfold apply
  split
  · next edited done => exact outcome_of_attempt done
  · next failure failed => exact .unchanged rfl (brought_of_attempt failed)

variable {rules rest : List Rule}

theorem Outcome.lockedRules (outcome : Outcome edit rules rest) :
    lockedRules rest = lockedRules rules ++ lockedRules edit.brought := by
  cases outcome with
  | extended more same locked => rw [← locked, RuleSet.lockedRules_congr same]
  | shortened removal split unlocked _ =>
      rw [removal, split, RuleSet.lockedRules_without unlocked]
      exact (List.append_nil _).symm

theorem Outcome.length_le (outcome : Outcome edit rules rest) :
    (∃ index, edit = .removeRule index) ∨ rules.length ≤ rest.length := by
  cases outcome with
  | extended more same _ =>
      have count := congrArg List.length same
      simp only [unflagged, List.length_append, List.length_map] at count
      exact .inr (by omega)
  | shortened removal _ _ _ => exact .inl ⟨_, removal⟩

/-! ## Runs of edits -/

/-- The organization after a run of edits, each under settings of its own. -/
def history (organization : Organization) (steps : List (Settings × OrganizationEdit)) :
    Organization :=
  steps.foldl (fun organization step => step.2.apply step.1 organization) organization

/-- The rules that a run of edits brings, in order. -/
def allBrought (steps : List (Settings × OrganizationEdit)) : List Rule :=
  steps.flatMap fun step => step.2.brought

theorem lockedRules_history (organization : Organization)
    (steps : List (Settings × OrganizationEdit)) :
    lockedRules (history organization steps).redirectionRules =
      lockedRules organization.redirectionRules ++ lockedRules (allBrought steps) := by
  induction steps generalizing organization with
  | nil => exact (List.append_nil _).symm
  | cons step steps ih =>
      have rest : history organization (step :: steps) =
          history (step.2.apply step.1 organization) steps := rfl
      have brings : allBrought (step :: steps) = step.2.brought ++ allBrought steps := rfl
      rw [rest, ih, (outcome_apply _ _ _).lockedRules, brings, RuleSet.lockedRules_append,
        List.append_assoc]

/-- The locked rules after a run of edits are those from before it and those that were
added, in order. No edit but a removal makes the rules fewer, and a removal succeeds exactly
where its index stands for a rule that is not locked: that one goes, and nothing else
changes. -/
theorem locked_rules_stay (organization : Organization)
    (steps : List (Settings × OrganizationEdit)) :
    lockedRules (history organization steps).redirectionRules =
        lockedRules organization.redirectionRules ++ lockedRules (allBrought steps) ∧
      ∀ (settings : Settings) (current : Organization),
        (∀ edit : OrganizationEdit, (∃ index, edit = .removeRule index) ∨
          current.redirectionRules.length ≤
            (edit.apply settings current).redirectionRules.length) ∧
        ∀ index edited, attempt settings current (.removeRule index) = .ok edited ↔
          ∃ front rule back, current.redirectionRules = front ++ rule :: back ∧
            rule.locked = false ∧
            Addresses index front.length current.redirectionRules.length ∧
            edited = { current with redirectionRules := front ++ back } := by
  refine ⟨lockedRules_history organization steps, fun settings current => ⟨?_, ?_⟩⟩
  · intro edit
    exact (outcome_apply settings current edit).length_le
  · intro index edited
    rw [attempt_removeRule_eq_ok_iff]
    constructor
    · rintro ⟨rules, removed, rfl⟩
      obtain ⟨front, rule, back, split, rfl, unlocked, addresses⟩ :=
        RuleSet.remove_eq_ok_iff.mp removed
      exact ⟨front, rule, back, split, unlocked, addresses, rfl⟩
    · rintro ⟨front, rule, back, split, unlocked, addresses, rfl⟩
      exact ⟨front ++ back,
        RuleSet.remove_eq_ok_iff.mpr ⟨front, rule, back, split, rfl, unlocked, addresses⟩, rfl⟩

end OrganizationEdit

end AuthRedirect
