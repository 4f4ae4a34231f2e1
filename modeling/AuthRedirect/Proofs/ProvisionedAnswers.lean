import AuthRedirect.Proofs.Precedence
import AuthRedirect.Proofs.ProvisioningRuns

/-!
What provisioning does to the answers for logins. Rules are added behind the given ones,
for every role, and each with one target that is flagged as the default. So an added rule
gives way to every choice of a role of its own and to every given rule with a usable
default. What it may take the place of is a second chance for every role, or the fallback.
-/

namespace AuthRedirect

variable {settings : Settings} {roles : Option (List String)} {rules more : List Rule}
  {login : Login} {tier : Tier} {index : Nat} {target : Target} {url : Option String}

/-! ## Choices in front of more rules -/

theorem IsChoice.lt_length (choice : IsChoice settings roles rules login tier index target) :
    index < rules.length := by
  obtain ⟨rule, place, -⟩ := choice
  exact (List.getElem?_eq_some_iff.mp place).1

/-- Where the given rules stand, more rules behind them make no difference to the choices. -/
theorem isChoice_append_iff (inside : index < rules.length) :
    IsChoice settings roles (rules ++ more) login tier index target ↔
      IsChoice settings roles rules login tier index target := by
  unfold IsChoice
  rw [List.getElem?_append_left inside]

theorem IsChoice.append (choice : IsChoice settings roles rules login tier index target)
    (more : List Rule) : IsChoice settings roles (rules ++ more) login tier index target :=
  (isChoice_append_iff choice.lt_length).mpr choice

/-! ## Choices among added rules -/

namespace Provisioning

variable {provisioning : Settings} {environment origin description : String}

/-- What the rule for an origin gives in any tier it gives as its default, for every role. -/
theorem takes_standardRule
    (takes : tier.Takes login (standardRule provisioning environment origin description) target) :
    Tier.anyRoleDefault.rank ≤ tier.rank ∧
      Tier.anyRoleDefault.Takes login (standardRule provisioning environment origin description)
        target := by
  have defaults : (standardRule provisioning environment origin description).DefaultsTo
      ⟨provisioning.fallbackFor origin, true⟩ := .flagged [] [] rfl (by simp) rfl
  cases takes with
  | specificRoleDefault named same _ => exact absurd same.symm named
  | specificRoleFirst named same _ => exact absurd same.symm named
  | anyRoleDefault any defaults => exact ⟨Nat.le_refl _, .anyRoleDefault any defaults⟩
  | anyRoleFirst any starts =>
      obtain ⟨back, split⟩ := starts
      obtain ⟨rfl, -⟩ := List.cons.inj split
      exact ⟨by decide, .anyRoleDefault any defaults⟩

/-- What an added rule gives in any tier it gives as its default, for every role. -/
theorem isChoice_provision (behind : rules.length ≤ index)
    (choice : IsChoice settings roles (provision provisioning rules url) login tier index target) :
    Tier.anyRoleDefault.rank ≤ tier.rank ∧
      IsChoice settings roles (provision provisioning rules url) login .anyRoleDefault index
        target := by
  obtain ⟨rule, place, eligible, takes, hasText⟩ := choice
  have among : rule ∈ added provisioning rules url := by
    rw [provision, List.getElem?_append_right behind] at place
    exact List.mem_of_getElem? place
  obtain ⟨_, _, _, rfl⟩ := exists_standardRule_of_mem_added among
  obtain ⟨lower, defaults⟩ := takes_standardRule takes
  exact ⟨lower, _, place, eligible, defaults, hasText⟩

/-! ## Answers before and after -/

/-- Provisioning leaves the answer as it is, or an added rule gives the answer as its
default, and no choice among the given rules goes before it. -/
theorem resolve_provision_cases (settings provisioning : Settings) (roles : Option (List String))
    (rules : List Rule) (login : Login) (url : Option String) :
    resolve settings roles (provision provisioning rules url) login =
        resolve settings roles rules login ∨
      ∃ index, rules.length ≤ index ∧
        (resolve settings roles (provision provisioning rules url) login).hit =
          some (.anyRoleDefault, index) ∧
        ∀ tier' index' target', IsChoice settings roles rules login tier' index' target' →
          toLex (Tier.anyRoleDefault.rank, index) ≤ toLex (tier'.rank, index') := by
  have before := isAnswer_resolve settings roles rules login
  have after := isAnswer_resolve settings roles (provision provisioning rules url) login
  generalize resolve settings roles (provision provisioning rules url) login = answer at after
  cases after with
  | @choice tier index target choice first =>
      rcases Nat.lt_or_ge index rules.length with inside | behind
      · left
        have given := (isChoice_append_iff inside).mp choice
        exact (IsAnswer.choice given fun _ _ _ other => first _ _ _ (other.append _)).unique before
      · right
        obtain ⟨lower, asDefault⟩ := isChoice_provision behind choice
        have least := first _ _ _ asDefault
        rw [Prod.Lex.toLex_le_toLex] at least
        have rank : tier.rank = Tier.anyRoleDefault.rank := by
          dsimp only at least
          omega
        obtain rfl := Tier.rank_injective rank
        exact ⟨index, behind, rfl, fun _ _ _ other => first _ _ _ (other.append _)⟩
  | fallback nothing =>
      left
      exact (IsAnswer.fallback fun _ _ _ other => nothing _ _ _ (other.append _)).unique before

/-- Provisioning leaves the answer to a login as it is. The one exception is a login that
was answered by the first target of a rule for every role, or by the fallback: an added rule
may answer it instead, with its default target. -/
theorem resolve_provision (settings provisioning : Settings) (roles : Option (List String))
    (rules : List Rule) (login : Login) (url : Option String) :
    resolve settings roles (provision provisioning rules url) login =
        resolve settings roles rules login ∨
      ((resolve settings roles rules login).hit = none ∨
          ∃ index, (resolve settings roles rules login).hit = some (.anyRoleFirst, index)) ∧
        ∃ index, rules.length ≤ index ∧
          (resolve settings roles (provision provisioning rules url) login).hit =
            some (.anyRoleDefault, index) := by
  rcases resolve_provision_cases settings provisioning roles rules login url with
    same | ⟨index, behind, answer, first⟩
  · exact .inl same
  · refine .inr ⟨?_, index, behind, answer⟩
    have before := isAnswer_resolve settings roles rules login
    generalize resolve settings roles rules login = given at before
    cases before with
    | fallback _ => exact .inl rfl
    | @choice tier place target choice _ =>
        -- The added rule stands behind all given ones, so only a lower tier gives way to it.
        right
        have lower := first _ _ _ choice
        have inside := choice.lt_length
        rw [Prod.Lex.toLex_le_toLex] at lower
        dsimp only at lower
        cases tier with
        | anyRoleFirst => exact ⟨place, rfl⟩
        | anyRoleDefault => omega
        | specificRoleFirst => exact absurd lower (by simp [Tier.rank])
        | specificRoleDefault => exact absurd lower (by simp [Tier.rank])

/-- The second added rule answers a login that was sent to the fallback. -/
example :
    resolve {} none (provision {} [] (some "https://auth.acme.io"))
        { authOrigin := "https://auth.acme.io" } =
      ⟨"https://auth.acme.io/profile", some (.anyRoleDefault, 1)⟩ := by
  decide +kernel

end Provisioning

end AuthRedirect
