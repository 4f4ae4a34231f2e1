import AuthRedirect.Resolution
import Mathlib.Data.Prod.Lex
import Mathlib.Order.Lex

/-!
Which rule sends a login on. What makes a rule eligible and what a tier takes
from it are said here without the search: a *choice* is a tier, a place among
the rules, and the target that the rule there has to offer in that tier.

`resolve_eq_iff` says that the search gives the first choice, tiers before
places, and that it gives the fallback exactly when there is no choice. A rule
whose default target is blank is no choice in its first tier, so it gives way to
every later rule with a usable default, and still goes before all lower tiers.
-/

namespace AuthRedirect

open AuthRedirect.Text

/-! ## Eligible rules -/

/-- What a rule has to meet to give the URL for a login: it is for the auth page,
for the environment where environments are told apart, and for a known role
where roles are known. -/
structure Rule.Eligible (settings : Settings) (roles : Option (List String)) (login : Login)
    (rule : Rule) : Prop where
  origin :
    if settings.strictOriginMatching then Origin.same rule.authPageUrl login.authOrigin = true
    else Origin.overlap rule.authPageUrl login.authOrigin = true
  environment : settings.matchEnvironment = true →
    ∀ wanted, login.environment = some wanted → wanted ≠ "" →
      lower rule.environment = lower wanted
  role : ∀ known, roles = some known → rule.roleSlug = anyRole ∨ rule.roleSlug ∈ known

variable {settings : Settings} {roles : Option (List String)} {login : Login} {rule : Rule}

theorem Rule.matchesOrigin_iff : rule.matchesOrigin settings login = true ↔
    if settings.strictOriginMatching then Origin.same rule.authPageUrl login.authOrigin = true
    else Origin.overlap rule.authPageUrl login.authOrigin = true := by
  unfold Rule.matchesOrigin
  split <;> rfl

theorem Rule.matchesEnvironment_iff : rule.matchesEnvironment settings login = true ↔
    (settings.matchEnvironment = true →
      ∀ wanted, login.environment = some wanted → wanted ≠ "" →
        lower rule.environment = lower wanted) := by
  unfold Rule.matchesEnvironment
  cases switch : settings.matchEnvironment with
  | false => simp
  | true =>
      cases environment : login.environment with
      | none => simp
      | some wanted =>
          simp only [Option.getD_some, Bool.not_true, Bool.false_or, Bool.or_eq_true,
            String.isEmpty_iff, beq_iff_eq, Option.some.injEq, forall_eq', forall_const]
          exact Decidable.or_iff_not_imp_left

theorem Rule.hasKnownRole_iff : rule.hasKnownRole roles = true ↔
    ∀ known, roles = some known → rule.roleSlug = anyRole ∨ rule.roleSlug ∈ known := by
  cases roles with
  | none => simp [Rule.hasKnownRole]
  | some known => simp [Rule.hasKnownRole, Rule.appliesToAnyRole]

/-- The test of the search is what makes a rule eligible. -/
theorem Rule.isEligible_iff :
    rule.isEligible settings roles login = true ↔ rule.Eligible settings roles login := by
  rw [Rule.isEligible, Bool.and_eq_true, Bool.and_eq_true, Rule.matchesOrigin_iff,
    Rule.matchesEnvironment_iff, Rule.hasKnownRole_iff]
  constructor
  · intro ⟨⟨origin, environment⟩, role⟩
    exact ⟨origin, environment, role⟩
  · intro eligible
    exact ⟨⟨eligible.origin, eligible.environment⟩, eligible.role⟩

/-! ## Targets -/

/-- The target that a rule sends to by default: the first one that is flagged, or
the first of all when none is. -/
inductive Rule.DefaultsTo (rule : Rule) (target : Target) : Prop
  | flagged (front back : List Target) : rule.targets = front ++ target :: back →
    (∀ other ∈ front, other.isDefault = false) → target.isDefault = true →
    Rule.DefaultsTo rule target
  | unflagged (back : List Target) : rule.targets = target :: back →
    (∀ other ∈ rule.targets, other.isDefault = false) → Rule.DefaultsTo rule target

/-- The target that a rule lists first. -/
def Rule.StartsWith (rule : Rule) (target : Target) : Prop :=
  ∃ back, rule.targets = target :: back

theorem Rule.firstTarget?_eq_some_iff {target : Target} :
    rule.firstTarget? = some target ↔ rule.StartsWith target :=
  List.head?_eq_some_iff

theorem Rule.defaultTarget?_eq_some_iff {target : Target} :
    rule.defaultTarget? = some target ↔ rule.DefaultsTo target := by
  unfold Rule.defaultTarget?
  cases found : rule.targets.find? fun target => target.isDefault with
  | some flagged =>
      obtain ⟨isDefault, front, back, split, unflagged⟩ := List.find?_eq_some_iff_append.mp found
      simp only [Bool.not_eq_eq_eq_not, Bool.not_true] at unflagged
      constructor
      · intro same
        cases Option.some.inj same
        exact .flagged front back split unflagged isDefault
      · intro defaults
        cases defaults with
        | flagged front' back' split' unflagged' isDefault' =>
            have found' : rule.targets.find? (fun target => target.isDefault) = some target :=
              List.find?_eq_some_iff_append.mpr
                ⟨isDefault', front', back', split', by simpa using unflagged'⟩
            exact found.symm.trans found'
        | unflagged _ _ unflagged' =>
            have member : flagged ∈ rule.targets := List.mem_of_find?_eq_some found
            exact absurd isDefault (by simp [unflagged' flagged member])
  | none =>
      have unflagged : ∀ other ∈ rule.targets, other.isDefault = false := by
        simpa using List.find?_eq_none.mp found
      constructor
      · intro first
        obtain ⟨back, split⟩ := Rule.firstTarget?_eq_some_iff.mp first
        exact .unflagged back split unflagged
      · intro defaults
        cases defaults with
        | flagged front back split _ isDefault =>
            have member : target ∈ rule.targets := by simp [split]
            exact absurd isDefault (by simp [unflagged target member])
        | unflagged back split _ => exact Rule.firstTarget?_eq_some_iff.mpr ⟨back, split⟩

/-! ## Choices -/

/-- What a tier takes from a rule. The tiers for one role are left out for a
login that names no role of its own. -/
inductive Tier.Takes (login : Login) (rule : Rule) (target : Target) : Tier → Prop
  | specificRoleDefault : login.roleSlug ≠ anyRole → rule.roleSlug = login.roleSlug →
    rule.DefaultsTo target → Tier.Takes login rule target .specificRoleDefault
  | specificRoleFirst : login.roleSlug ≠ anyRole → rule.roleSlug = login.roleSlug →
    rule.StartsWith target → Tier.Takes login rule target .specificRoleFirst
  | anyRoleDefault : rule.roleSlug = anyRole →
    rule.DefaultsTo target → Tier.Takes login rule target .anyRoleDefault
  | anyRoleFirst : rule.roleSlug = anyRole →
    rule.StartsWith target → Tier.Takes login rule target .anyRoleFirst

/-- Whether a URL has a character that is not blank. -/
def HasText (url : String) : Prop :=
  ∃ c ∈ url.toList, isBlank c = false

/-- The rule at a place is eligible and has a target with a URL to offer in a
tier. -/
def IsChoice (settings : Settings) (roles : Option (List String)) (rules : List Rule)
    (login : Login) (tier : Tier) (index : Nat) (target : Target) : Prop :=
  ∃ rule, rules[index]? = some rule ∧ rule.Eligible settings roles login ∧
    tier.Takes login rule target ∧ HasText target.url

/-- Where a tier stands among the tiers. -/
def Tier.rank : Tier → Nat
  | .specificRoleDefault => 1
  | .specificRoleFirst => 2
  | .anyRoleDefault => 3
  | .anyRoleFirst => 4

variable {rules : List Rule} {tier : Tier} {index : Nat} {target : Target} {url : String}

theorem blank_eq_false_iff : blank url = false ↔ HasText url := by
  simp [blank, allBlank, HasText]

theorem Tier.takes_iff : tier.Takes login rule target ↔
    tier.holds login rule = true ∧ tier.target? rule = some target := by
  cases tier <;>
    simp only [Tier.holds, Tier.target?, Rule.appliesToAnyRole, Bool.and_eq_true, bne_iff_ne, ne_eq,
      beq_iff_eq, Rule.defaultTarget?_eq_some_iff, Rule.firstTarget?_eq_some_iff]
  · constructor
    · intro takes
      cases takes with
      | specificRoleDefault named same defaults => exact ⟨⟨named, same⟩, defaults⟩
    · intro ⟨⟨named, same⟩, defaults⟩
      exact .specificRoleDefault named same defaults
  · constructor
    · intro takes
      cases takes with
      | specificRoleFirst named same starts => exact ⟨⟨named, same⟩, starts⟩
    · intro ⟨⟨named, same⟩, starts⟩
      exact .specificRoleFirst named same starts
  · constructor
    · intro takes
      cases takes with
      | anyRoleDefault any defaults => exact ⟨any, defaults⟩
    · intro ⟨any, defaults⟩
      exact .anyRoleDefault any defaults
  · constructor
    · intro takes
      cases takes with
      | anyRoleFirst any starts => exact ⟨any, starts⟩
    · intro ⟨any, starts⟩
      exact .anyRoleFirst any starts

/-- A tier and a place leave no doubt about the target. -/
theorem IsChoice.target_unique {other : Target}
    (choice : IsChoice settings roles rules login tier index target)
    (choice' : IsChoice settings roles rules login tier index other) : target = other := by
  obtain ⟨rule, place, _, takes, _⟩ := choice
  obtain ⟨rule', place', _, takes', _⟩ := choice'
  cases Option.some.inj (place.symm.trans place')
  exact Option.some.inj ((Tier.takes_iff.mp takes).2.symm.trans (Tier.takes_iff.mp takes').2)

/-! ## The search in one tier -/

/-- What the search of a tier makes of the rule at a place. -/
def Tier.pick (tier : Tier) (eligible : Rule → Bool) (login : Login) (place : Rule × Nat) :
    Option Resolution :=
  if eligible place.1 && tier.holds login place.1 then
    (tier.url? place.1).map fun url => ⟨url, some (tier, place.2)⟩
  else none

theorem Tier.search_eq_findSome? (eligible : Rule → Bool) :
    tier.search eligible login rules = rules.zipIdx.findSome? (tier.pick eligible login) :=
  rfl

theorem Tier.url?_eq_some_iff : tier.url? rule = some url ↔
    ∃ target, tier.target? rule = some target ∧ HasText target.url ∧ target.url = url := by
  rw [Tier.url?, Option.bind_eq_some_iff]
  refine exists_congr fun target => and_congr_right fun _ => ?_
  rw [← blank_eq_false_iff]
  cases blank target.url <;> simp

theorem Tier.pick_eq_some_iff {resolution : Resolution} :
    tier.pick (Rule.isEligible settings roles login) login (rule, index) = some resolution ↔
      ∃ target, rule.Eligible settings roles login ∧ tier.Takes login rule target ∧
        HasText target.url ∧ resolution = ⟨target.url, some (tier, index)⟩ := by
  simp only [Tier.pick, Option.ite_none_right_eq_some, Bool.and_eq_true, Option.map_eq_some_iff,
    Tier.url?_eq_some_iff, Rule.isEligible_iff]
  constructor
  · intro picked
    obtain ⟨⟨eligible, holds⟩, _, ⟨target, taken, hasText, rfl⟩, rfl⟩ := picked
    exact ⟨target, eligible, Tier.takes_iff.mpr ⟨holds, taken⟩, hasText, rfl⟩
  · intro chosen
    obtain ⟨target, eligible, takes, hasText, rfl⟩ := chosen
    obtain ⟨holds, taken⟩ := Tier.takes_iff.mp takes
    exact ⟨⟨eligible, holds⟩, _, ⟨target, taken, hasText, rfl⟩, rfl⟩

theorem Tier.pick_of_takes (eligible : rule.Eligible settings roles login)
    (takes : tier.Takes login rule target) (hasText : HasText target.url) (index : Nat) :
    tier.pick (Rule.isEligible settings roles login) login (rule, index) =
      some ⟨target.url, some (tier, index)⟩ :=
  Tier.pick_eq_some_iff.mpr ⟨target, eligible, takes, hasText, rfl⟩

/-- A tier gives nothing exactly when it has no choice. -/
theorem Tier.search_eq_none_iff :
    tier.search (Rule.isEligible settings roles login) login rules = none ↔
      ∀ index target, ¬ IsChoice settings roles rules login tier index target := by
  rw [Tier.search_eq_findSome?, List.findSome?_eq_none_iff]
  constructor
  · intro nothing index target ⟨rule, place, eligible, takes, hasText⟩
    have passed := nothing (rule, index) (List.mk_mem_zipIdx_iff_getElem?.mpr place)
    rw [Tier.pick_of_takes eligible takes hasText index] at passed
    cases passed
  · intro nothing ⟨rule, index⟩ member
    rw [Option.eq_none_iff_forall_ne_some]
    intro resolution picked
    obtain ⟨target, eligible, takes, hasText, -⟩ := Tier.pick_eq_some_iff.mp picked
    exact nothing index target
      ⟨rule, List.mk_mem_zipIdx_iff_getElem?.mp member, eligible, takes, hasText⟩

/-- What a tier gives is a choice of the tier, and no choice of the tier stands
before it. -/
theorem Tier.first_of_search {resolution : Resolution}
    (found : tier.search (Rule.isEligible settings roles login) login rules = some resolution) :
    ∃ index target, resolution = ⟨target.url, some (tier, index)⟩ ∧
      IsChoice settings roles rules login tier index target ∧
      ∀ index' target', IsChoice settings roles rules login tier index' target' →
        index ≤ index' := by
  rw [Tier.search_eq_findSome?, List.findSome?_eq_some_iff] at found
  obtain ⟨before, ⟨rule, index⟩, back, split, picked, passed⟩ := found
  obtain ⟨front, rest, same, rfl, rest_eq⟩ := List.zipIdx_eq_append_iff.mp split
  obtain ⟨_, _, rfl, place, -⟩ := List.zipIdx_eq_cons_iff.mp rest_eq.symm
  obtain ⟨rfl, rfl⟩ := Prod.mk.inj place
  obtain ⟨target, eligible, takes, hasText, rfl⟩ := Tier.pick_eq_some_iff.mp picked
  subst same
  refine ⟨_, target, rfl, ⟨rule, by simp, eligible, takes, hasText⟩, ?_⟩
  intro index' target' ⟨rule', place', eligible', takes', hasText'⟩
  -- An earlier choice would lie in the part that the search has passed over.
  by_contra earlier
  have inFront : index' < front.length := by omega
  rw [List.getElem?_append_left inFront] at place'
  have skipped := passed (rule', index') (List.mk_mem_zipIdx_iff_getElem?.mpr place')
  rw [Tier.pick_of_takes eligible' takes' hasText' index'] at skipped
  cases skipped

/-! ## The search through the tiers -/

/-- Whether a resolution is the one that the choices for a login ask for: the
first choice, tiers before places, or else the fallback on the origin of the
login, from which the slashes at the end are dropped. -/
inductive IsAnswer (settings : Settings) (roles : Option (List String)) (rules : List Rule)
    (login : Login) : Resolution → Prop
  | choice {tier : Tier} {index : Nat} {target : Target} :
    IsChoice settings roles rules login tier index target →
    (∀ tier' index' target', IsChoice settings roles rules login tier' index' target' →
      toLex (tier.rank, index) ≤ toLex (tier'.rank, index')) →
    IsAnswer settings roles rules login ⟨target.url, some (tier, index)⟩
  | fallback :
    (∀ tier index target, ¬ IsChoice settings roles rules login tier index target) →
    IsAnswer settings roles rules login
      ⟨String.ofList (dropTrailing (· == '/') (trim login.authOrigin.toList)) ++
        settings.fallbackPath, none⟩

theorem Tier.mem_all (tier : Tier) : tier ∈ Tier.all := by
  cases tier <;> decide

/-- The tiers are searched in the order of their ranks. -/
theorem Tier.all_sorted : Tier.all.Pairwise fun tier other => tier.rank < other.rank := by
  decide

theorem Tier.rank_injective : Function.Injective Tier.rank := by
  intro tier other same
  cases tier <;> cases other <;> simp_all [Tier.rank]

/-- The search gives what the choices ask for. -/
theorem isAnswer_resolve (settings : Settings) (roles : Option (List String)) (rules : List Rule)
    (login : Login) : IsAnswer settings roles rules login (resolve settings roles rules login) := by
  change IsAnswer settings roles rules login ((Tier.all.findSome? fun tier =>
    tier.search (Rule.isEligible settings roles login) login rules).getD
      (Resolution.fallback settings login))
  cases found : Tier.all.findSome? fun tier =>
      tier.search (Rule.isEligible settings roles login) login rules with
  | none =>
      rw [List.findSome?_eq_none_iff] at found
      rw [Option.getD_none, Resolution.fallback, Settings.fallbackFor_eq, String.toList_ofList]
      exact .fallback fun tier => Tier.search_eq_none_iff.mp (found tier tier.mem_all)
  | some resolution =>
      obtain ⟨higher, tier, lower, split, here, passed⟩ := List.findSome?_eq_some_iff.mp found
      obtain ⟨index, target, rfl, choice, first⟩ := Tier.first_of_search here
      refine .choice choice ?_
      intro tier' index' target' choice'
      rw [Prod.Lex.toLex_le_toLex]
      have sorted := Tier.all_sorted
      have member := tier'.mem_all
      rw [split] at sorted member
      obtain ⟨-, fromHere, -⟩ := List.pairwise_append.mp sorted
      rcases List.mem_append.mp member with among | among
      · exact absurd choice' (Tier.search_eq_none_iff.mp (passed tier' among) index' target')
      · rcases List.mem_cons.mp among with rfl | among
        · exact .inr ⟨rfl, first index' target' choice'⟩
        · exact .inl ((List.pairwise_cons.mp fromHere).1 tier' among)

/-- The choices for a login ask for one resolution only. -/
theorem IsAnswer.unique {one other : Resolution} (answer : IsAnswer settings roles rules login one)
    (answer' : IsAnswer settings roles rules login other) : one = other := by
  cases answer with
  | choice choice first =>
      cases answer' with
      | choice choice' first' =>
          obtain ⟨rank, place⟩ := Prod.mk.inj
            (toLex.injective (le_antisymm (first _ _ _ choice') (first' _ _ _ choice)))
          obtain rfl := Tier.rank_injective rank
          subst place
          rw [choice.target_unique choice']
      | fallback nothing => exact absurd choice (nothing _ _ _)
  | fallback nothing =>
      cases answer' with
      | choice choice _ => exact absurd choice (nothing _ _ _)
      | fallback _ => rfl

/-- A login is sent to the target of the first choice, tiers before places, and
to the fallback exactly when there is no choice. -/
theorem resolve_eq_iff (settings : Settings) (roles : Option (List String)) (rules : List Rule)
    (login : Login) (resolution : Resolution) :
    resolve settings roles rules login = resolution ↔
      IsAnswer settings roles rules login resolution := by
  constructor
  · intro same
    rw [← same]
    exact isAnswer_resolve settings roles rules login
  · intro answer
    exact (isAnswer_resolve settings roles rules login).unique answer

end AuthRedirect
