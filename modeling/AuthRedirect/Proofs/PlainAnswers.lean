import AuthRedirect.Proofs.Precedence
import AuthRedirect.Proofs.ValidationErrors
import AuthRedirect.RuleSet

/-!
Answers from rules without errors. Every target of such a rule has a URL, so a rule that is
eligible gives its default target, and no tier for second chances is ever reached: the first
eligible rule for the role of the login answers, or else the first one for every role.
-/

namespace AuthRedirect

open AuthRedirect.Text
open Validation (Sound SoundUrl)

variable {settings : Settings} {roles : Option (List String)} {rules : List Rule}
  {login : Login} {rule : Rule} {tier : Tier} {index : Nat} {target : Target} {slug : String}

/-! ## Default targets -/

theorem Rule.DefaultsTo.mem (defaults : rule.DefaultsTo target) : target ∈ rule.targets := by
  cases defaults with
  | flagged front back split _ _ => simp [split]
  | unflagged back split _ => simp [split]

/-- A rule with targets has a default one. -/
theorem Rule.exists_defaultsTo (some : rule.targets ≠ []) : ∃ target, rule.DefaultsTo target := by
  obtain ⟨first, back, split⟩ := List.exists_cons_of_ne_nil some
  cases default : rule.defaultTarget? with
  | some target => exact ⟨target, Rule.defaultTarget?_eq_some_iff.mp default⟩
  | none =>
      have starts : rule.firstTarget? = .some first :=
        Rule.firstTarget?_eq_some_iff.mpr ⟨back, split⟩
      rw [Rule.defaultTarget?, starts] at default
      simp at default

/-! ## The first eligible rule -/

/-- Whether the rule at a place is the first eligible one that names a role. -/
def IsFirstFor (settings : Settings) (roles : Option (List String)) (rules : List Rule)
    (login : Login) (slug : String) (index : Nat) (rule : Rule) : Prop :=
  ∃ front back, rules = front ++ rule :: back ∧ front.length = index ∧
    rule.roleSlug = slug ∧ rule.Eligible settings roles login ∧
    ∀ other ∈ front, other.roleSlug = slug → ¬ other.Eligible settings roles login

/-- Whether no eligible rule names a role. -/
def NoneFor (settings : Settings) (roles : Option (List String)) (rules : List Rule)
    (login : Login) (slug : String) : Prop :=
  ∀ rule ∈ rules, rule.roleSlug = slug → ¬ rule.Eligible settings roles login

/-- The answer of the first eligible rule for the role of the login, if the login has a role
of its own, or else of the first one for every role, by its default target; or else the
fallback. -/
inductive IsPlainAnswer (settings : Settings) (roles : Option (List String)) (rules : List Rule)
    (login : Login) : Resolution → Prop
  | ownRole {index : Nat} {rule : Rule} {target : Target} : login.roleSlug ≠ anyRole →
    IsFirstFor settings roles rules login login.roleSlug index rule → rule.DefaultsTo target →
    IsPlainAnswer settings roles rules login ⟨target.url, some (.specificRoleDefault, index)⟩
  | everyRole {index : Nat} {rule : Rule} {target : Target} :
    (login.roleSlug ≠ anyRole → NoneFor settings roles rules login login.roleSlug) →
    IsFirstFor settings roles rules login anyRole index rule → rule.DefaultsTo target →
    IsPlainAnswer settings roles rules login ⟨target.url, some (.anyRoleDefault, index)⟩
  | fallback : (login.roleSlug ≠ anyRole → NoneFor settings roles rules login login.roleSlug) →
    NoneFor settings roles rules login anyRole →
    IsPlainAnswer settings roles rules login (Resolution.fallback settings login)

/-! ## Choices among sound rules -/

/-- The tier in which rules that name a role give their default targets. -/
def Tier.defaultFor (slug : String) : Tier :=
  if slug = anyRole then .anyRoleDefault else .specificRoleDefault

theorem Tier.takes_defaultFor (defaults : rule.DefaultsTo target)
    (named : rule.roleSlug = login.roleSlug ∨ rule.roleSlug = anyRole) :
    (Tier.defaultFor rule.roleSlug).Takes login rule target := by
  unfold Tier.defaultFor
  split
  · next any => exact .anyRoleDefault any defaults
  · next own =>
      rcases named with same | any
      · exact .specificRoleDefault (same ▸ own) same defaults
      · exact absurd any own

/-- An eligible sound rule that names a role is a choice by its default target. -/
theorem exists_isChoice_defaultFor (sound : Sound rule) (place : rules[index]? = some rule)
    (eligible : rule.Eligible settings roles login)
    (named : rule.roleSlug = login.roleSlug ∨ rule.roleSlug = anyRole) :
    ∃ target, IsChoice settings roles rules login (Tier.defaultFor rule.roleSlug) index target := by
  obtain ⟨target, defaults⟩ := Rule.exists_defaultsTo sound.someTarget
  have hasText := blank_eq_false_iff.mp (sound.targets target defaults.mem).1
  exact ⟨target, rule, place, eligible, Tier.takes_defaultFor defaults named, hasText⟩

/-- Where sound rules give no default target for a role, no eligible one names it. -/
theorem noneFor_of_no_choice (sound : ∀ rule ∈ rules, Sound rule)
    (named : slug = login.roleSlug ∨ slug = anyRole)
    (nothing : ∀ index target,
      ¬ IsChoice settings roles rules login (Tier.defaultFor slug) index target) :
    NoneFor settings roles rules login slug := by
  rintro rule among rfl eligible
  obtain ⟨index, place⟩ := List.mem_iff_getElem?.mp among
  obtain ⟨target, choice⟩ := exists_isChoice_defaultFor (sound rule among) place eligible named
  exact nothing index target choice

/-- Whether no choice goes before the one of a tier at a place. -/
def GoesFirst (settings : Settings) (roles : Option (List String)) (rules : List Rule)
    (login : Login) (tier : Tier) (index : Nat) : Prop :=
  ∀ tier' index' target', IsChoice settings roles rules login tier' index' target' →
    toLex (tier.rank, index) ≤ toLex (tier'.rank, index')

/-- No tier above the one of the first choice has a choice. -/
theorem GoesFirst.not_isChoice {higher : Tier}
    (first : GoesFirst settings roles rules login tier index) (above : higher.rank < tier.rank)
    (place : Nat) (other : Target) : ¬ IsChoice settings roles rules login higher place other := by
  intro choice
  have least := first _ _ _ choice
  rw [Prod.Lex.toLex_le_toLex] at least
  dsimp only at least
  omega

/-- The first choice by default targets is the first eligible rule that names the role. -/
theorem GoesFirst.isFirstFor (sound : ∀ rule ∈ rules, Sound rule)
    (first : GoesFirst settings roles rules login (Tier.defaultFor rule.roleSlug) index)
    (place : rules[index]? = some rule) (eligible : rule.Eligible settings roles login)
    (named : rule.roleSlug = login.roleSlug ∨ rule.roleSlug = anyRole) :
    IsFirstFor settings roles rules login rule.roleSlug index rule := by
  obtain ⟨front, back, rfl, rfl⟩ := RuleSet.getElem?_eq_some_iff_split.mp place
  refine ⟨front, back, rfl, rfl, rfl, eligible, ?_⟩
  intro other before same eligible'
  obtain ⟨position, place'⟩ := List.mem_iff_getElem?.mp before
  have inside : position < front.length := (List.getElem?_eq_some_iff.mp place').1
  rw [← List.getElem?_append_left inside] at place'
  have among := sound other (List.mem_append_left _ before)
  rw [← same] at named first
  obtain ⟨target, choice⟩ := exists_isChoice_defaultFor among place' eligible' named
  have least := first _ _ _ choice
  rw [Prod.Lex.toLex_le_toLex] at least
  dsimp only at least
  omega

/-! ## The answer -/

theorem Resolution.fallback_eq (settings : Settings) (login : Login) :
    Resolution.fallback settings login =
      ⟨String.ofList (dropTrailing (· == '/') (trim login.authOrigin.toList)) ++
        settings.fallbackPath, none⟩ := by
  rw [Resolution.fallback, Settings.fallbackFor_eq, String.toList_ofList]

/-- Among sound rules no second chance is taken. -/
theorem IsAnswer.isPlainAnswer {resolution : Resolution} (sound : ∀ rule ∈ rules, Sound rule)
    (answer : IsAnswer settings roles rules login resolution) :
    IsPlainAnswer settings roles rules login resolution := by
  have own (named : login.roleSlug ≠ anyRole) :
      Tier.defaultFor login.roleSlug = .specificRoleDefault := if_neg named
  cases answer with
  | fallback nothing =>
      rw [← Resolution.fallback_eq]
      exact .fallback (fun _ => noneFor_of_no_choice sound (.inl rfl) (nothing _))
        (noneFor_of_no_choice sound (.inr rfl) (nothing _))
  | choice choice first =>
      replace first : GoesFirst settings roles rules login _ _ := first
      obtain ⟨rule, place, eligible, takes, -⟩ := choice
      have among := sound rule (List.mem_of_getElem? place)
      cases takes with
      | specificRoleDefault named same defaults =>
          rw [← own named, ← same] at first
          have firstFor := first.isFirstFor sound place eligible (.inl same)
          rw [same] at firstFor
          exact .ownRole named firstFor defaults
      | specificRoleFirst named same starts =>
          obtain ⟨target, better⟩ := exists_isChoice_defaultFor among place eligible (.inl same)
          rw [same, own named] at better
          exact absurd better (first.not_isChoice (by decide) _ _)
      | anyRoleDefault any defaults =>
          have above (named : login.roleSlug ≠ anyRole) :
              (Tier.defaultFor login.roleSlug).rank < Tier.anyRoleDefault.rank := by
            rw [own named]
            decide
          have noneOwn (named : login.roleSlug ≠ anyRole) :=
            noneFor_of_no_choice sound (.inl rfl) (first.not_isChoice (above named))
          have every : Tier.defaultFor anyRole = .anyRoleDefault := if_pos rfl
          rw [← every, ← any] at first
          have firstFor := first.isFirstFor sound place eligible (.inr any)
          rw [any] at firstFor
          exact .everyRole noneOwn firstFor defaults
      | anyRoleFirst any starts =>
          obtain ⟨target, better⟩ := exists_isChoice_defaultFor among place eligible (.inr any)
          rw [any] at better
          exact absurd better (first.not_isChoice (by decide) _ _)

/-- The URL of an answer is that of a target of the rules, or the fallback. -/
theorem IsPlainAnswer.cases_hit {resolution : Resolution} (sound : ∀ rule ∈ rules, Sound rule)
    (answer : IsPlainAnswer settings roles rules login resolution)
    (found : resolution.hit = some (tier, index)) :
    (tier = .specificRoleDefault ∨ tier = .anyRoleDefault) ∧ SoundUrl resolution.url := by
  have soundUrl {slug : String} {place : Nat} {rule : Rule} {target : Target}
      (firstFor : IsFirstFor settings roles rules login slug place rule)
      (defaults : rule.DefaultsTo target) : SoundUrl target.url := by
    obtain ⟨front, back, split, -⟩ := firstFor
    have among : rule ∈ rules := by simp [split]
    exact (sound rule among).targets target defaults.mem
  cases answer with
  | ownRole _ firstFor defaults =>
      cases found
      exact ⟨.inl rfl, soundUrl firstFor defaults⟩
  | everyRole _ firstFor defaults =>
      cases found
      exact ⟨.inr rfl, soundUrl firstFor defaults⟩
  | fallback _ _ => cases found

/-- Rules without errors answer a login by the default target of the first eligible rule for
its role, or else of the first one for every role, or else not at all. They take no second
chance, and what they answer with is neither blank nor ends with a slash. -/
theorem resolve_of_no_errors {known : Option (List String)} {isNewOrganization : Bool}
    (noErrors : (Validation.validateRuleSet known isNewOrganization rules).errors = [])
    (settings : Settings) (roles : Option (List String)) (login : Login) :
    IsPlainAnswer settings roles rules login (resolve settings roles rules login) ∧
      ∀ tier index, (resolve settings roles rules login).hit = some (tier, index) →
        (tier = .specificRoleDefault ∨ tier = .anyRoleDefault) ∧
          SoundUrl (resolve settings roles rules login).url := by
  have sound := Validation.sound_of_errors_eq_nil noErrors
  have answer := (isAnswer_resolve settings roles rules login).isPlainAnswer sound
  exact ⟨answer, fun _ _ found => answer.cases_hit sound found⟩

/-- Rules for everyone and for one role, on one auth page. -/
def portalRules : List Rule := [
  { environment := "production"
    authPageUrl := "https://auth.acme.io"
    targets := [⟨"https://app.acme.io/start", false⟩, ⟨"https://app.acme.io/home", true⟩] },
  { environment := "production"
    authPageUrl := "https://auth.acme.io"
    roleSlug := "admin"
    targets := [⟨"https://app.acme.io/admin", false⟩] }]

theorem resolve_portalRules :
    let login : Login := { authOrigin := "https://auth.acme.io", roleSlug := "admin" }
    (Validation.validateRuleSet none false portalRules).errors = [] ∧
      (resolve {} none portalRules login).hit = some (.specificRoleDefault, 1) ∧
      IsPlainAnswer {} none portalRules login (resolve {} none portalRules login) ∧
      SoundUrl (resolve {} none portalRules login).url := by
  intro login
  have noErrors : (Validation.validateRuleSet none false portalRules).errors = [] := by
    decide +kernel
  have found : (resolve {} none portalRules login).hit = some (.specificRoleDefault, 1) := by
    decide +kernel
  obtain ⟨answer, sound⟩ := resolve_of_no_errors noErrors {} none login
  exact ⟨noErrors, found, answer, (sound _ _ found).2⟩

end AuthRedirect
