import AuthRedirect.Proofs.ErrorReports
import Mathlib.Data.List.Induction

/-!
The warnings about defaults that compete. Rules are counted group by group in a tally that
grows as the rules are read, one after the other. After every rule it has an entry for each
group that came up, in the order in which they came up, with the number of rules of the group
that have a default (`Tally.Counts`). So there is one warning for each group in which several
rules have one, in the order of the first rules of the groups: `competing_defaults_exact`.
-/

namespace AuthRedirect.Validation

variable {roles : Option (List String)} {rules : List Rule} {rule : Rule}
  {pair : String × String} {issue : Issue}

/-! ## Adding to a tally -/

namespace Tally

variable {α : Type} [DecidableEq α] {tally : Tally α} {key : α}

theorem add_of_not_mem (absent : key ∉ tally.map Prod.fst) (amount : Nat) :
    tally.add key amount = tally ++ [(key, amount)] := by
  induction tally with
  | nil => rfl
  | cons entry rest ih =>
      rw [List.map_cons, List.mem_cons, not_or] at absent
      rw [Tally.add, if_neg (Ne.symm absent.1), ih absent.2]
      rfl

/-- Where each key has one entry, adding under one that is there changes its entry only. -/
theorem add_of_mem (distinct : (tally.map Prod.fst).Nodup) (among : key ∈ tally.map Prod.fst)
    (amount : Nat) :
    tally.add key amount =
      tally.map fun entry => if entry.1 = key then (key, entry.2 + amount) else entry := by
  induction tally with
  | nil => cases among
  | cons entry rest ih =>
      rw [List.map_cons, List.nodup_cons] at distinct
      rw [Tally.add, List.map_cons]
      split
      · next here =>
          subst here
          have others : ∀ other ∈ rest,
              (if other.1 = entry.1 then (entry.1, other.2 + amount) else other) = other := by
            intro other inRest
            have differs : other.1 ≠ entry.1 := fun same =>
              distinct.1 (same ▸ List.mem_map_of_mem inRest)
            exact if_neg differs
          rw [List.map_congr_left others, List.map_id']
      · next elsewhere =>
          rcases List.mem_cons.mp among with here | inRest
          · exact absurd here.symm elsewhere
          · rw [ih distinct.2 inRest]

end Tally

/-! ## What is counted -/

/-- Whether a rule is counted under an environment and a role. One that names no environment
is counted under `unknown`, and one that names no role under `any`. -/
def CountsFor (pair : String × String) (rule : Rule) : Prop :=
  (if rule.environment = "" then "unknown" else rule.environment) = pair.1 ∧
    (if rule.roleSlug = "" then "any" else rule.roleSlug) = pair.2

instance : Decidable (CountsFor pair rule) :=
  inferInstanceAs (Decidable (_ ∧ _))

/-- How many rules of a group have a default. A rule counts once, however many it has. -/
def defaultingCount (rules : List Rule) (pair : String × String) : Nat :=
  rules.countP fun rule => CountsFor pair rule ∧ ∃ target ∈ rule.targets, target.isDefault = true

/-- Where the first rule of a group stands, whether it has a default or not. -/
def firstPlace (rules : List Rule) (pair : String × String) : Nat :=
  rules.findIdx fun rule => CountsFor pair rule

/-- Whether a group comes up among rules. -/
def ComesUp (rules : List Rule) (pair : String × String) : Prop :=
  ∃ rule ∈ rules, group rule = pair

theorem countsFor_iff : CountsFor pair rule ↔ group rule = pair := by
  obtain ⟨environment, roleSlug⟩ := pair
  simp only [CountsFor, group, anyRole, Prod.mk.injEq, String.isEmpty_iff]

theorem hasDefault_iff :
    rule.hasDefault = true ↔ ∃ target ∈ rule.targets, target.isDefault = true := by
  rw [Rule.hasDefault, List.any_eq_true]

theorem defaultingCount_eq (rules : List Rule) (pair : String × String) :
    defaultingCount rules pair = rules.countP fun rule => group rule = pair ∧ rule.hasDefault := by
  simp only [defaultingCount, countsFor_iff, hasDefault_iff]

theorem firstPlace_eq (rules : List Rule) (pair : String × String) :
    firstPlace rules pair = rules.findIdx fun rule => group rule = pair := by
  simp only [firstPlace, countsFor_iff]

theorem comesUp_concat_iff :
    ComesUp (rules ++ [rule]) pair ↔ ComesUp rules pair ∨ group rule = pair := by
  simp [ComesUp, or_and_right, exists_or]

theorem defaultingCount_concat :
    defaultingCount (rules ++ [rule]) pair = defaultingCount rules pair +
      if group rule = pair then (if rule.hasDefault then 1 else 0) else 0 := by
  rw [defaultingCount_eq, List.countP_append, List.countP_singleton, defaultingCount_eq]
  by_cases same : group rule = pair <;> simp [same]

theorem ComesUp.firstPlace_lt (up : ComesUp rules pair) :
    firstPlace rules pair < rules.length := by
  obtain ⟨rule, among, same⟩ := up
  rw [firstPlace_eq]
  exact List.findIdx_lt_length_of_exists ⟨rule, among, decide_eq_true same⟩

/-- A rule that is read later does not move the first one of a group. -/
theorem ComesUp.firstPlace_concat (up : ComesUp rules pair) (rule : Rule) :
    firstPlace (rules ++ [rule]) pair = firstPlace rules pair := by
  have before := up.firstPlace_lt
  rw [firstPlace_eq] at before
  rw [firstPlace_eq, firstPlace_eq, List.findIdx_append, if_pos before]

theorem firstPlace_concat_of_new (new : ¬ ComesUp rules (group rule)) :
    firstPlace (rules ++ [rule]) (group rule) = rules.length := by
  have behind : rules.findIdx (fun other => group other = group rule) = rules.length := by
    rw [List.findIdx_eq_length]
    intro other among
    exact decide_eq_false fun same => new ⟨other, among, same⟩
  rw [firstPlace_eq, List.findIdx_append, behind, if_neg (Nat.lt_irrefl _)]
  simp

theorem comesUp_of_defaultingCount (some : 0 < defaultingCount rules pair) :
    ComesUp rules pair := by
  rw [defaultingCount_eq] at some
  obtain ⟨rule, among, both⟩ := List.countP_pos_iff.mp some
  exact ⟨rule, among, (of_decide_eq_true both).1⟩

theorem defaultingCount_of_new (new : ¬ ComesUp rules pair) : defaultingCount rules pair = 0 :=
  Nat.eq_zero_of_not_pos fun some => new (comesUp_of_defaultingCount some)

/-! ## The tally of the rules that were read -/

/-- What the tally says about the rules that were read so far. -/
structure Tally.Counts (tally : Tally (String × String)) (rules : List Rule) : Prop where
  keys : ∀ pair, pair ∈ tally.map Prod.fst ↔ ComesUp rules pair
  order : (tally.map Prod.fst).Pairwise fun pair later =>
    firstPlace rules pair < firstPlace rules later
  counts : ∀ entry ∈ tally, entry.2 = defaultingCount rules entry.1

namespace Tally.Counts

variable {tally : Tally (String × String)}

theorem distinct (tallied : tally.Counts rules) : (tally.map Prod.fst).Nodup :=
  tallied.order.imp fun {pair later} before same => by
    rw [same] at before
    exact Nat.lt_irrefl _ before

/-- Groups that are there keep their order when one more rule is read. -/
theorem order_concat (tallied : tally.Counts rules) (rule : Rule) :
    (tally.map Prod.fst).Pairwise fun pair later =>
      firstPlace (rules ++ [rule]) pair < firstPlace (rules ++ [rule]) later := by
  refine tallied.order.imp_of_mem fun {pair later} here there before => ?_
  rw [((tallied.keys pair).mp here).firstPlace_concat,
    ((tallied.keys later).mp there).firstPlace_concat]
  exact before

/-- A rule of a group that came up before is counted in the entry of the group. -/
theorem add_known (tallied : tally.Counts rules) (known : ComesUp rules (group rule)) :
    (tally.add (group rule) (if rule.hasDefault then 1 else 0)).Counts (rules ++ [rule]) := by
  have changed := Tally.add_of_mem tallied.distinct ((tallied.keys _).mpr known)
    (if rule.hasDefault then 1 else 0)
  have sameKeys : (tally.add (group rule) (if rule.hasDefault then 1 else 0)).map Prod.fst =
      tally.map Prod.fst := by
    rw [changed, List.map_map]
    apply List.map_congr_left
    intro entry _
    rw [Function.comp_apply]
    split
    · next here => exact here.symm
    · rfl
  constructor
  · intro pair
    rw [sameKeys, tallied.keys, comesUp_concat_iff]
    exact ⟨.inl, fun up => up.elim id fun same => same ▸ known⟩
  · rw [sameKeys]
    exact tallied.order_concat rule
  · intro entry among
    rw [changed] at among
    obtain ⟨before, listed, rfl⟩ := List.mem_map.mp among
    rw [defaultingCount_concat]
    split
    · next here => rw [if_pos rfl, tallied.counts before listed, here]
    · next elsewhere =>
        rw [if_neg (Ne.symm elsewhere), tallied.counts before listed]
        rfl

/-- A rule of a group that did not come up before gets an entry behind the others. -/
theorem add_new (tallied : tally.Counts rules) (new : ¬ ComesUp rules (group rule)) :
    (tally.add (group rule) (if rule.hasDefault then 1 else 0)).Counts (rules ++ [rule]) := by
  have absent : group rule ∉ tally.map Prod.fst := fun among => new ((tallied.keys _).mp among)
  rw [Tally.add_of_not_mem absent]
  constructor
  · intro pair
    rw [List.map_append, List.mem_append, tallied.keys, comesUp_concat_iff, List.map_singleton,
      List.mem_singleton, eq_comm (a := pair)]
  · rw [List.map_append, List.pairwise_append]
    refine ⟨tallied.order_concat rule, List.pairwise_singleton _ _, ?_⟩
    intro pair here later there
    have known := (tallied.keys pair).mp here
    rw [List.map_singleton, List.mem_singleton] at there
    rw [there, firstPlace_concat_of_new new, known.firstPlace_concat]
    exact known.firstPlace_lt
  · intro entry among
    rw [defaultingCount_concat]
    rcases List.mem_append.mp among with listed | last
    · have elsewhere : group rule ≠ entry.1 := fun same =>
        absent (same ▸ List.mem_map_of_mem listed)
      rw [if_neg elsewhere, tallied.counts entry listed]
      rfl
    · rw [List.mem_singleton.mp last, if_pos rfl, defaultingCount_of_new new, Nat.zero_add]

end Tally.Counts

theorem counts_defaultTally (rules : List Rule) : (defaultTally rules).Counts rules := by
  induction rules using List.reverseRecOn with
  | nil =>
      refine ⟨fun pair => ?_, List.Pairwise.nil, fun entry among => by cases among⟩
      simp [defaultTally, ComesUp]
  | append_singleton rules rule ih =>
      rw [defaultTally, List.foldl_append]
      by_cases known : ComesUp rules (group rule)
      · exact ih.add_known known
      · exact ih.add_new known

/-! ## Warnings about groups -/

/-- The warning that several rules of a group have a default. -/
def competition (pair : String × String) : Issue :=
  ⟨.ruleSet, .competingDefaults pair.1 pair.2⟩

/-- The groups in which several rules have a default. -/
def contestedGroups (rules : List Rule) : List (String × String) :=
  ((defaultTally rules).filter fun entry => 1 < entry.2).map Prod.fst

theorem competitionIssues_eq (rules : List Rule) :
    competitionIssues rules = (contestedGroups rules).map competition := by
  rw [contestedGroups, List.map_map]
  rfl

theorem mem_contestedGroups_iff :
    pair ∈ contestedGroups rules ↔ 2 ≤ defaultingCount rules pair := by
  have tallied := counts_defaultTally rules
  rw [contestedGroups, List.mem_map]
  constructor
  · rintro ⟨entry, among, rfl⟩
    obtain ⟨listed, several⟩ := List.mem_filter.mp among
    rw [← tallied.counts entry listed]
    exact of_decide_eq_true several
  · intro several
    have up := comesUp_of_defaultingCount (Nat.zero_lt_of_lt several)
    obtain ⟨entry, listed, rfl⟩ := List.mem_map.mp ((tallied.keys pair).mpr up)
    rw [← tallied.counts entry listed] at several
    exact ⟨entry, List.mem_filter.mpr ⟨listed, decide_eq_true several⟩, rfl⟩

theorem contestedGroups_sorted (rules : List Rule) :
    (contestedGroups rules).Pairwise fun pair later =>
      firstPlace rules pair < firstPlace rules later :=
  (counts_defaultTally rules).order.sublist (List.filter_sublist.map _)

/-- The warnings of a rule set are those of its rules, and behind them those about groups. -/
theorem warnings_validateRuleSet (roles : Option (List String)) (isNewOrganization : Bool)
    (rules : List Rule) :
    (validateRuleSet roles isNewOrganization rules).warnings =
      ((ruleSetIssues roles 0 rules).filter fun issue => !issue.isError) ++
        (contestedGroups rules).map competition := by
  have missing : (if isNewOrganization && rules.isEmpty then [(⟨.ruleSet, .noRules⟩ : Issue)]
      else []).filter (fun issue => !issue.isError) = [] := by
    split <;> rfl
  have groups : (competitionIssues rules).filter (fun issue => !issue.isError) =
      competitionIssues rules := by
    rw [List.filter_eq_self, competitionIssues_eq]
    intro issue among
    obtain ⟨pair, -, rfl⟩ := List.mem_map.mp among
    rfl
  simp only [validateRuleSet, Report.ofIssues, List.filter_append, missing, groups,
    List.nil_append]
  rw [competitionIssues_eq]

/-- No problem of a rule is at the path of the rule set. -/
theorem path_ne_of_mem_ruleSetIssues {start : Nat}
    (among : issue ∈ ruleSetIssues roles start rules) : issue.path ≠ Place.ruleSet.text := by
  obtain ⟨index, part, -, place⟩ := exists_part_of_mem_ruleSetIssues among
  rw [Issue.path, place]
  exact (Place.text_ruleSet_ne index part).symm

theorem competition_mem_warnings_iff {isNewOrganization : Bool} :
    competition pair ∈ (validateRuleSet roles isNewOrganization rules).warnings ↔
      2 ≤ defaultingCount rules pair := by
  rw [warnings_validateRuleSet, List.mem_append, ← mem_contestedGroups_iff]
  constructor
  · rintro (ofRule | ofGroup)
    · exact absurd rfl (path_ne_of_mem_ruleSetIssues (List.mem_filter.mp ofRule).1)
    · obtain ⟨other, among, same⟩ := List.mem_map.mp ofGroup
      obtain ⟨environment, roleSlug⟩ := Cause.competingDefaults.inj (Issue.mk.inj same).2
      rwa [Prod.ext environment roleSlug] at among
  · intro among
    exact .inr (List.mem_map_of_mem among)

/-- The warnings at the path of the rule set stand behind those of the rules. There is one for
each group in which at least two rules have a default, in the order in which the groups come
up first, be it with a default or without one. -/
theorem competing_defaults_exact (roles : Option (List String)) (isNewOrganization : Bool)
    (rules : List Rule) :
    ∃ (ofRules : List Issue) (pairs : List (String × String)),
      (validateRuleSet roles isNewOrganization rules).warnings =
          ofRules ++ pairs.map competition ∧
        (∀ issue, issue ∈ ofRules ↔ ∃ (index : Nat) (rule : Rule), rules[index]? = some rule ∧
          issue ∈ (validateRule roles (some index) rule).warnings) ∧
        (∀ issue ∈ ofRules, issue.path ≠ "redirectionRules") ∧
        (∀ issue ∈ pairs.map competition, issue.path = "redirectionRules") ∧
        (∀ pair, pair ∈ pairs ↔ 2 ≤ defaultingCount rules pair) ∧
        pairs.Pairwise fun pair later => firstPlace rules pair < firstPlace rules later := by
  refine ⟨_, _, warnings_validateRuleSet roles isNewOrganization rules, ?_, ?_, ?_,
    fun _ => mem_contestedGroups_iff, contestedGroups_sorted rules⟩
  · intro issue
    rw [List.mem_filter, mem_ruleSetIssues_zero_iff]
    constructor
    · rintro ⟨⟨index, rule, place, ofRule⟩, warning⟩
      exact ⟨index, rule, place, List.mem_filter.mpr ⟨ofRule, warning⟩⟩
    · rintro ⟨index, rule, place, warned⟩
      obtain ⟨ofRule, warning⟩ := List.mem_filter.mp warned
      exact ⟨⟨index, rule, place, ofRule⟩, warning⟩
  · intro issue among
    exact path_ne_of_mem_ruleSetIssues (List.mem_filter.mp among).1
  · intro issue among
    obtain ⟨pair, -, rfl⟩ := List.mem_map.mp among
    rfl

end AuthRedirect.Validation
