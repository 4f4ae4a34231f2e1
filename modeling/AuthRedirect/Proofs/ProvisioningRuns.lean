import AuthRedirect.Proofs.OriginText
import AuthRedirect.Provisioning
import Mathlib.Data.List.Induction

/-!
Provisioning over and over. A rule that is added covers what it was added for, and
coverage is never lost, because rules are only added at the end. So a run of auth
server URLs settles: every URL of the run, and every other one with the same
origin, finds its rules there.

`Growth` says how the added rules come about, one after the other and each for
lack of a rule in front of it. From it follows that at most one rule for local
development is added, and that no added rule is for an auth page that stands in
the auth page of another.
-/

namespace AuthRedirect.Provisioning

open AuthRedirect.Text

variable {settings : Settings} {rules more : List Rule} {origin : String} {url : Option String}

/-! ## The added rules cover what they are added for -/

theorem localMarker_suffix (settings : Settings) :
    localMarker settings <:+ lowercase settings.localDevOrigin.toList := by
  rw [localMarker]
  cases found : after? "://".toList settings.localDevOrigin.toList with
  | none => exact List.suffix_refl _
  | some rest => exact suffix_lowercase_of_after? [':', '/'] found

theorem coversLocal_developmentRule (settings : Settings) :
    coversLocal settings (developmentRule settings) = true :=
  occursIn_iff.mpr (localMarker_suffix settings).isInfix

theorem coversOrigin_productionRule (nonempty : origin ≠ "") :
    coversOrigin origin (productionRule settings origin) = true := by
  rw [coversOrigin, Bool.and_eq_true, overlapping, Bool.or_eq_true]
  refine ⟨?_, .inl (occursIn_iff.mpr (List.infix_refl _))⟩
  simpa [productionRule, standardRule] using nonempty

theorem origin?_default (url : String) : origin? {} (some url) = Origin.usable? "https" url := by
  rw [origin?, Option.bind_some]

/-- An origin that rules can be added for is not empty. -/
theorem ne_empty_of_origin? (usable : origin? settings url = some origin) : origin ≠ "" := by
  obtain ⟨raw, -, usable⟩ := Option.bind_eq_some_iff.mp usable
  obtain ⟨-, -, web⟩ := Origin.usable?_eq_some_iff.mp usable
  intro empty
  rw [empty] at web
  exact absurd web (by decide)

/-! ## What one call adds -/

/-- Whether rules need no other ones for an origin. -/
structure Covers (settings : Settings) (rules : List Rule) (origin : String) : Prop where
  development : ∃ rule ∈ rules, coversLocal settings rule = true
  production : ∃ rule ∈ rules, coversOrigin origin rule = true

/-- More rules cover no less. -/
theorem Covers.append (covers : Covers settings rules origin) (more : List Rule) :
    Covers settings (rules ++ more) origin := by
  obtain ⟨⟨one, inRules, isLocal⟩, ⟨other, inRules', isProduction⟩⟩ := covers
  exact ⟨⟨one, List.mem_append_left _ inRules, isLocal⟩,
    ⟨other, List.mem_append_left _ inRules', isProduction⟩⟩

/-- A rule is added when none of the rules does what it does. -/
theorem lacking_cases (covers : Rule → Bool) (rules : List Rule) (missing : Rule) :
    ((if rules.any covers then [] else [missing]) = [] ∧ ∃ rule ∈ rules, covers rule = true) ∨
      ((if rules.any covers then [] else [missing]) = [missing] ∧
        ∀ rule ∈ rules, covers rule = false) := by
  cases covered : rules.any covers with
  | true => exact .inl ⟨rfl, List.any_eq_true.mp covered⟩
  | false => exact .inr ⟨rfl, by simpa using covered⟩

/-- With the rule that was lacking, something does what it does. -/
theorem covered_append_lacking {covers : Rule → Bool} {missing : Rule}
    (does : covers missing = true) (rules : List Rule) :
    ∃ rule ∈ rules ++ (if rules.any covers then [] else [missing]), covers rule = true := by
  rcases lacking_cases covers rules missing with ⟨none, covered⟩ | ⟨one, -⟩
  · rwa [none, List.append_nil]
  · rw [one]
    exact ⟨missing, by simp, does⟩

theorem missingLocal_eq_nil (covered : ∃ rule ∈ rules, coversLocal settings rule = true) :
    missingLocal settings rules = [] :=
  if_pos (List.any_eq_true.mpr covered)

theorem missingProduction_eq_nil (covered : ∃ rule ∈ rules, coversOrigin origin rule = true) :
    missingProduction settings rules origin = [] :=
  if_pos (List.any_eq_true.mpr covered)

theorem coversLocal_append_missingLocal (settings : Settings) (rules : List Rule) :
    ∃ rule ∈ rules ++ missingLocal settings rules, coversLocal settings rule = true :=
  covered_append_lacking (coversLocal_developmentRule settings) rules

theorem coversOrigin_append_missingProduction (settings : Settings) (rules : List Rule)
    (nonempty : origin ≠ "") :
    ∃ rule ∈ rules ++ missingProduction settings rules origin,
      coversOrigin origin rule = true :=
  covered_append_lacking (coversOrigin_productionRule nonempty) rules

theorem provision_of_origin? (usable : origin? settings url = some origin) :
    provision settings rules url = rules ++ missingFor settings rules origin := by
  rw [provision, added, usable]

theorem provision_of_unusable (unusable : origin? settings url = none) :
    provision settings rules url = rules := by
  rw [provision, added, unusable, List.append_nil]

/-- A rule that is added for lack of it is that rule. -/
theorem eq_of_mem_lacking {covers : Rule → Bool} {missing rule : Rule}
    (among : rule ∈ (if rules.any covers then [] else [missing])) : rule = missing := by
  split at among
  · cases among
  · exact List.mem_singleton.mp among

/-- Every added rule sends everyone who logs in on an origin to its fallback. -/
theorem exists_standardRule_of_mem_added {rule : Rule} (among : rule ∈ added settings rules url) :
    ∃ environment origin description,
      rule = standardRule settings environment origin description := by
  unfold added at among
  split at among
  · cases among
  · next origin _ =>
      rcases List.mem_append.mp among with development | production
      · exact ⟨_, _, _, eq_of_mem_lacking development⟩
      · exact ⟨_, _, _, eq_of_mem_lacking production⟩

/-- After provisioning, the rules cover the origin. -/
theorem covers_provision (usable : origin? settings url = some origin) :
    Covers settings (provision settings rules url) origin := by
  rw [provision_of_origin? usable, missingFor, ← List.append_assoc]
  obtain ⟨one, among, isLocal⟩ := coversLocal_append_missingLocal settings rules
  exact ⟨⟨one, List.mem_append_left _ among, isLocal⟩,
    coversOrigin_append_missingProduction settings _ (ne_empty_of_origin? usable)⟩

/-- Rules that cover the origin of a URL, if it has one, stay as they are. -/
theorem provision_eq_self
    (covered : ∀ origin, origin? settings url = some origin → Covers settings rules origin) :
    provision settings rules url = rules := by
  cases usable : origin? settings url with
  | none => exact provision_of_unusable usable
  | some origin =>
      have covers := covered origin usable
      rw [provision_of_origin? usable, missingFor]
      simp only [missingLocal_eq_nil covers.development, List.append_nil,
        missingProduction_eq_nil covers.production]

/-- Provisioned rules are settled for the URL. -/
theorem provision_provision (settings : Settings) (rules : List Rule) (url : Option String) :
    provision settings (provision settings rules url) url = provision settings rules url :=
  provision_eq_self fun _ usable => covers_provision usable

/-! ## How rules are added -/

/-- A rule that may be added to rules: the one for local development where none is
for it, or, once one is, the one for an origin that no rule covers. -/
inductive Addition (settings : Settings) (rules : List Rule) : Rule → Prop
  | development : (∀ rule ∈ rules, coversLocal settings rule = false) →
    Addition settings rules (developmentRule settings)
  | production {origin : String} : origin ≠ "" →
    (∃ rule ∈ rules, coversLocal settings rule = true) →
    (∀ rule ∈ rules, coversOrigin origin rule = false) →
    Addition settings rules (productionRule settings origin)

/-- Rules that were added to the given ones, each after those in front of it. -/
inductive Growth (settings : Settings) (rules : List Rule) : List Rule → Prop
  | nil : Growth settings rules []
  | snoc {grown : List Rule} {rule : Rule} : Growth settings rules grown →
    Addition settings (rules ++ grown) rule → Growth settings rules (grown ++ [rule])

variable {grown : List Rule}

theorem Growth.append_missingLocal (growth : Growth settings rules grown) :
    Growth settings rules (grown ++ missingLocal settings (rules ++ grown)) := by
  rcases lacking_cases (coversLocal settings) (rules ++ grown) (developmentRule settings) with
    ⟨none, -⟩ | ⟨one, uncovered⟩
  · rwa [missingLocal, none, List.append_nil]
  · rw [missingLocal, one]
    exact growth.snoc (.development uncovered)

theorem Growth.append_missingProduction (growth : Growth settings rules grown)
    (nonempty : origin ≠ "") (covered : ∃ rule ∈ rules ++ grown, coversLocal settings rule = true) :
    Growth settings rules (grown ++ missingProduction settings (rules ++ grown) origin) := by
  rcases lacking_cases (coversOrigin origin) (rules ++ grown) (productionRule settings origin) with
    ⟨none, -⟩ | ⟨one, uncovered⟩
  · rwa [missingProduction, none, List.append_nil]
  · rw [missingProduction, one]
    exact growth.snoc (.production nonempty covered uncovered)

/-- What one call adds continues the growth. -/
theorem Growth.append_added (growth : Growth settings rules grown) (url : Option String) :
    Growth settings rules (grown ++ added settings (rules ++ grown) url) := by
  unfold added
  cases usable : origin? settings url with
  | none => rwa [List.append_nil]
  | some origin =>
      dsimp only
      rw [missingFor, ← List.append_assoc, List.append_assoc rules]
      refine growth.append_missingLocal.append_missingProduction (ne_empty_of_origin? usable) ?_
      rw [← List.append_assoc]
      exact coversLocal_append_missingLocal settings (rules ++ grown)

/-! ## What growth leaves -/

/-- Whether a rule is for local development. -/
def isDevelopment (rule : Rule) : Bool :=
  rule.environment == "development"

/-- An added rule is the one for local development, or it is not for local
development and has an auth page. -/
theorem Growth.member_cases (growth : Growth settings rules grown) :
    ∀ rule ∈ grown, rule = developmentRule settings ∨
      (isDevelopment rule = false ∧ rule.authPageUrl ≠ "") := by
  induction growth with
  | nil => simp
  | snoc _ addition ih =>
      intro rule among
      rcases List.mem_append.mp among with before | last
      · exact ih rule before
      · rw [List.mem_singleton.mp last]
        cases addition with
        | development _ => exact .inl rfl
        | production nonempty _ _ => exact .inr ⟨rfl, nonempty⟩

/-- Where a rule was added, one covers local development. -/
theorem Growth.coversLocal (growth : Growth settings rules grown) (some : grown ≠ []) :
    ∃ rule ∈ rules ++ grown, coversLocal settings rule = true := by
  cases growth with
  | nil => exact absurd rfl some
  | snoc _ addition =>
      cases addition with
      | development _ =>
          exact ⟨developmentRule settings, by simp, coversLocal_developmentRule settings⟩
      | production _ covered _ =>
          obtain ⟨rule, among, isLocal⟩ := covered
          rw [← List.append_assoc]
          exact ⟨rule, List.mem_append_left _ among, isLocal⟩

/-- At most one rule for local development is added. -/
theorem Growth.countP_isDevelopment_le (growth : Growth settings rules grown) :
    grown.countP isDevelopment ≤ 1 := by
  induction growth with
  | nil => simp
  | @snoc grown rule growth addition ih =>
      rw [List.countP_append]
      cases addition with
      | production _ _ _ => simpa [isDevelopment, productionRule, standardRule] using ih
      | development uncovered =>
          -- Nothing was added before, or else local development would be covered.
          have first : grown = [] := by
            by_contra some
            obtain ⟨rule, among, isLocal⟩ := growth.coversLocal some
            rw [uncovered rule among] at isLocal
            cases isLocal
          rw [first]
          exact Nat.le_refl 1

/-- Whether neither of two auth pages stands in the other, whatever the letter
case. -/
def Apart (one other : Rule) : Prop :=
  overlapping (lowercase one.authPageUrl.toList) (lowercase other.authPageUrl.toList) = false

/-- The added rules are for auth pages of which none stands in another. -/
theorem Growth.apart (growth : Growth settings rules grown)
    (nonempty : settings.localDevOrigin ≠ "") : grown.Pairwise Apart := by
  induction growth with
  | nil => exact .nil
  | @snoc grown rule growth addition ih =>
      rw [List.pairwise_append]
      refine ⟨ih, List.pairwise_singleton _ _, ?_⟩
      intro other before last among
      rw [List.mem_singleton.mp among]
      cases addition with
      | development uncovered =>
          obtain ⟨rule, covering, isLocal⟩ := growth.coversLocal (List.ne_nil_of_mem before)
          rw [uncovered rule covering] at isLocal
          cases isLocal
      | @production origin _ _ uncovered =>
          have page : other.authPageUrl ≠ "" := by
            rcases growth.member_cases other before with rfl | ⟨-, page⟩
            · exact nonempty
            · exact page
          have unrelated := uncovered other (List.mem_append_right _ before)
          rw [coversOrigin, Bool.and_eq_false_iff] at unrelated
          rcases unrelated with empty | unrelated
          · simp [page] at empty
          · rw [Apart, overlapping_comm]
            exact unrelated

/-! ## Runs -/

/-- The rules after provisioning for one URL after the other. -/
def provisionAll (settings : Settings) (rules : List Rule) (urls : List (Option String)) :
    List Rule :=
  urls.foldl (provision settings) rules

/-- One call adds at most one rule that is not for local development. -/
theorem countP_added_le (settings : Settings) (rules : List Rule) (url : Option String) :
    (added settings rules url).countP (fun rule => !isDevelopment rule) ≤ 1 := by
  unfold added
  cases origin? settings url with
  | none => simp
  | some origin =>
      have development :
          (missingLocal settings rules).countP (fun rule => !isDevelopment rule) = 0 := by
        rcases lacking_cases (coversLocal settings) rules (developmentRule settings) with
          ⟨none, -⟩ | ⟨one, -⟩
        · rw [missingLocal, none, List.countP_nil]
        · rw [missingLocal, one]
          rfl
      have production (rules : List Rule) :
          (missingProduction settings rules origin).length ≤ 1 := by
        unfold missingProduction
        split <;> simp
      dsimp only
      rw [missingFor, List.countP_append, development, Nat.zero_add]
      exact Nat.le_trans List.countP_le_length (production _)

/-- A run adds rules by growth, and for each URL at most one that is not for local
development. -/
theorem exists_growth_of_run (settings : Settings) (rules : List Rule)
    (urls : List (Option String)) :
    ∃ grown, provisionAll settings rules urls = rules ++ grown ∧ Growth settings rules grown ∧
      grown.countP (fun rule => !isDevelopment rule) ≤ urls.length := by
  -- From the end of the run: the last URL meets all the rules added before it.
  induction urls using List.reverseRecOn with
  | nil => exact ⟨[], (List.append_nil rules).symm, .nil, Nat.le_refl 0⟩
  | append_singleton urls url ih =>
      obtain ⟨grown, run, growth, bound⟩ := ih
      refine ⟨grown ++ added settings (rules ++ grown) url, ?_, growth.append_added url, ?_⟩
      · have last : provisionAll settings rules (urls ++ [url]) =
            provision settings (provisionAll settings rules urls) url :=
          List.foldl_append
        rw [last, run, provision, List.append_assoc]
      · rw [List.countP_append, List.length_append, List.length_singleton]
        exact Nat.add_le_add bound (countP_added_le settings (rules ++ grown) url)

/-- After a run, the rules cover the origin of each of its URLs. -/
theorem covers_provisionAll {urls : List (Option String)} (among : url ∈ urls)
    (usable : origin? settings url = some origin) :
    Covers settings (provisionAll settings rules urls) origin := by
  obtain ⟨before, after, rfl⟩ := List.append_of_mem among
  rw [provisionAll, List.foldl_append, List.foldl_cons]
  obtain ⟨grown, run, -, -⟩ := exists_growth_of_run settings
    (provision settings (before.foldl (provision settings) rules) url) after
  rw [← provisionAll, run]
  exact (covers_provision usable).append grown

/-- Whether a URL is another one over again: the same, or a usable one with the
same normalized origin. -/
def SameOrigin (settings : Settings) (url again : Option String) : Prop :=
  again = url ∨ ∃ one other, url = some one ∧ again = some other ∧
    (Origin.usable? settings.defaultScheme other).isSome = true ∧
    Origin.normalize settings.defaultScheme other = Origin.normalize settings.defaultScheme one

theorem SameOrigin.origin? {again : Option String} (same : SameOrigin settings url again)
    (usable : origin? settings again = some origin) : origin? settings url = some origin := by
  rcases same with rfl | ⟨one, other, rfl, rfl, -, normalized⟩
  · exact usable
  · simp only [Provisioning.origin?, Option.bind_some, Origin.usable?] at *
    rw [← normalized]
    exact usable

/-- A run leaves the rules as they were and adds rules behind them: one for each
URL at most, and one for local development at most. The result is settled: no URL
of the run adds a rule, and neither does another one with the same origin. Unless
local development has no origin, none of the added rules is for an auth page that
stands in the auth page of another. -/
theorem provisionAll_settles (settings : Settings) (rules : List Rule)
    (urls : List (Option String)) :
    ∃ grown, provisionAll settings rules urls = rules ++ grown ∧
      grown.length ≤ urls.length + 1 ∧ grown.countP isDevelopment ≤ 1 ∧
      (∀ url ∈ urls, ∀ again, SameOrigin settings url again →
        provision settings (rules ++ grown) again = rules ++ grown) ∧
      (settings.localDevOrigin ≠ "" → grown.Pairwise Apart) := by
  obtain ⟨grown, run, growth, bound⟩ := exists_growth_of_run settings rules urls
  have development := growth.countP_isDevelopment_le
  refine ⟨grown, run, ?_, development, ?_, growth.apart⟩
  · have parts : grown.length = _ := List.length_eq_countP_add_countP isDevelopment
    simp only [Bool.not_eq_true, Bool.decide_eq_false] at parts
    omega
  · intro url among again same
    apply provision_eq_self
    intro origin usable
    rw [← run]
    exact covers_provisionAll among (same.origin? usable)

end AuthRedirect.Provisioning
