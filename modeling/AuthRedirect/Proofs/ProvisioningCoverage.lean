import AuthRedirect.Proofs.NormalForm
import AuthRedirect.Proofs.ProvisioningRuns
import AuthRedirect.Resolution

/-!
Provisioning and resolution on the same rules. Provisioning looks for the origin of an
auth server in the stored text of an auth page, resolution compares normal forms. A rule
that is added passes both tests. A stored rule may pass the first one alone: `acme.io`
stands in `https://auth.acme.io`, but `https://acme.io` does not. No rule is added then,
and a login on the auth server finds none.
-/

namespace AuthRedirect

open AuthRedirect.Text

/-! ## Origins and their normal forms -/

namespace Origin

variable {page url origin : String}

theorem normalize_cases (url : String) :
    normalize "https" url = url ∨
      ∃ value, Proper value ∧ (normalize "https" url).toList = value.text := by
  have web : Url.isWebScheme "https".toList = true := by decide
  rcases normalForm_cases web url.toList with same | ⟨value, proper, -, written⟩
  · exact .inl (by rw [normalize, same, String.ofList_toList])
  · exact .inr ⟨value, proper, by rw [normalize, String.toList_ofList, written]⟩

theorem comparable_eq (normal : normalize "https" url = origin) :
    comparable url = lowercase origin.toList := by
  rw [comparable, ← normal]
  exact congrArg lowercase String.toList_ofList.symm

/-- What an origin is compared by stands in what its URL is compared by. -/
theorem comparable_normalize_infix (url : String) :
    comparable (normalize "https" url) <:+: comparable url := by
  have shown : comparable url = lowercase (normalize "https" url).toList := comparable_eq rfl
  rw [shown]
  rcases normalize_cases url with same | ⟨value, proper, written⟩
  · simp only [same, comparable_eq same, List.infix_refl]
  · rw [comparable, written]
    rcases proper.normalForm_text "https".toList with same | trimmed
    · simp only [same, List.infix_refl]
    · rw [trimmed]
      exact lowercase_trim_infix _

/-- The origin of a URL overlaps the URL. -/
theorem overlap_normalize (normal : normalize "https" url = origin) (page : origin ≠ "")
    (some : url ≠ "") : overlap origin url = true := by
  have stands : occursIn (comparable origin) (comparable url) = true := by
    rw [occursIn_iff, ← normal]
    exact comparable_normalize_infix url
  simp [overlap, overlapping, page, some, stands]

end Origin

namespace Provisioning

variable {settings : Settings} {rules : List Rule} {rule : Rule} {url origin : String}

theorem usable_default (usable : origin? {} (some url) = some origin) :
    Origin.normalize "https" url = origin ∧ url ≠ "" := by
  rw [origin?_default] at usable
  obtain ⟨normal, -, web⟩ := Origin.usable?_eq_some_iff.mp usable
  refine ⟨normal, ?_⟩
  rintro rfl
  rw [← normal] at web
  exact absurd web (by decide +kernel)

/-! ## The two tests -/

/-- Whether an auth page is compared as it is written, but for the letter case. -/
def ComparedAsWritten (rule : Rule) : Prop :=
  Origin.comparable rule.authPageUrl = lowercase rule.authPageUrl.toList

instance : DecidablePred ComparedAsWritten := fun rule =>
  inferInstanceAs (Decidable (Origin.comparable rule.authPageUrl = lowercase rule.authPageUrl.toList))

/-- On an auth page that is compared as it is written the two tests agree. -/
theorem overlap_eq_coversOrigin (written : ComparedAsWritten rule)
    (usable : origin? {} (some url) = some origin) :
    Origin.overlap rule.authPageUrl url = coversOrigin origin rule := by
  obtain ⟨normal, nonempty⟩ := usable_default usable
  have some : url.isEmpty = false := by simpa using nonempty
  rw [Origin.overlap, coversOrigin, written, Origin.comparable_eq normal, overlapping_comm, some,
    Bool.not_false, Bool.and_true]

theorem comparedAsWritten_developmentRule : ComparedAsWritten (developmentRule {}) := by
  have page : Origin.comparable "http://localhost:4001" =
      lowercase "http://localhost:4001".toList := by decide +kernel
  exact page

theorem overlap_productionRule (settings : Settings)
    (usable : origin? {} (some url) = some origin) :
    Origin.overlap (productionRule settings origin).authPageUrl url = true := by
  obtain ⟨normal, nonempty⟩ := usable_default usable
  exact Origin.overlap_normalize normal (ne_empty_of_origin? usable) nonempty

/-! ## The provisioned rules -/

/-- A rule for the origin that is compared as it is written, or that was just added,
overlaps the URL. -/
theorem exists_overlap_provision (usable : origin? {} (some url) = some origin)
    (written : ∀ rule ∈ rules, coversOrigin origin rule = true → ComparedAsWritten rule) :
    ∃ rule ∈ provision {} rules (some url), Origin.overlap rule.authPageUrl url = true := by
  rw [provision_of_origin? usable, missingFor, ← List.append_assoc, missingProduction]
  rcases lacking_cases (coversOrigin origin) (rules ++ missingLocal {} rules)
    (productionRule {} origin) with ⟨none, rule, among, covers⟩ | ⟨one, -⟩
  · rw [none, List.append_nil]
    refine ⟨rule, among, ?_⟩
    suffices plain : ComparedAsWritten rule by
      rw [overlap_eq_coversOrigin plain usable]
      exact covers
    rcases List.mem_append.mp among with given | added
    · exact written rule given covers
    · rw [eq_of_mem_lacking added]
      exact comparedAsWritten_developmentRule
  · rw [one]
    exact ⟨_, List.mem_append_right _ (List.mem_singleton_self _), overlap_productionRule {} usable⟩

/-- The provisioned rules have one that overlaps the auth server exactly where no given
rule covers its origin, or where one of the rules did so before the rule for the auth
server was looked for. So they have one where the given rules that cover the origin are
compared as they are written, and a login on the auth server passes its origin test. -/
theorem overlap_provision_iff (rules : List Rule) (url origin : String)
    (usable : origin? {} (some url) = some origin) :
    ((∃ rule ∈ provision {} rules (some url), Origin.overlap rule.authPageUrl url = true) ↔
      (∀ rule ∈ rules, coversOrigin origin rule = false) ∨
        ∃ rule ∈ rules ++ missingLocal {} rules, Origin.overlap rule.authPageUrl url = true) ∧
    ((∀ rule ∈ rules, coversOrigin origin rule = true → ComparedAsWritten rule) →
      ∃ rule ∈ provision {} rules (some url),
        ∀ login : Login, login.authOrigin = url → rule.matchesOrigin {} login = true) := by
  refine ⟨⟨?_, ?_⟩, ?_⟩
  · rintro ⟨rule, among, overlaps⟩
    rw [provision_of_origin? usable, missingFor, ← List.append_assoc] at among
    rcases List.mem_append.mp among with before | last
    · exact .inr ⟨rule, before, overlaps⟩
    · -- The rule was added because none before it covers the origin.
      left
      intro given inRules
      by_contra covers
      have covered : ∃ rule ∈ rules ++ missingLocal {} rules, coversOrigin origin rule = true :=
        ⟨given, List.mem_append_left _ inRules, by simpa using covers⟩
      rw [missingProduction_eq_nil covered] at last
      cases last
  · rintro (uncovered | ⟨rule, before, overlaps⟩)
    · refine exists_overlap_provision usable fun rule given covers => ?_
      rw [uncovered rule given] at covers
      cases covers
    · rw [provision_of_origin? usable, missingFor, ← List.append_assoc]
      exact ⟨rule, List.mem_append_left _ before, overlaps⟩
  · intro written
    obtain ⟨rule, among, overlaps⟩ := exists_overlap_provision usable written
    refine ⟨rule, among, ?_⟩
    rintro login rfl
    exact overlaps

/-- A rule whose auth page is a bare domain. -/
def bareRule : Rule where
  environment := "production"
  authPageUrl := "acme.io"
  targets := [⟨"https://app.acme.io/home", false⟩]

/-- The rule for a bare domain does not cover an auth server elsewhere, so one is added. -/
theorem overlap_provision_of_bareRule :
    ∃ rule ∈ provision {} [bareRule] (some "https://login.shop.io/"),
      Origin.overlap rule.authPageUrl "https://login.shop.io/" = true :=
  (overlap_provision_iff [bareRule] "https://login.shop.io/" "https://login.shop.io"
    (by decide +kernel)).1.mpr (.inl (by decide +kernel))

/-- The rule for a bare domain covers an auth server under it and does not overlap it. -/
theorem not_overlap_provision :
    ¬ ∀ (rules : List Rule) (url origin : String), origin? {} (some url) = some origin →
      ∃ rule ∈ provision {} rules (some url), Origin.overlap rule.authPageUrl url = true := by
  intro every
  have usable : origin? {} (some "https://auth.acme.io") = some "https://auth.acme.io" := by
    decide +kernel
  have apart : ∀ rule ∈ provision {} [bareRule] (some "https://auth.acme.io"),
      Origin.overlap rule.authPageUrl "https://auth.acme.io" = false := by decide +kernel
  obtain ⟨rule, among, overlaps⟩ := every [bareRule] _ _ usable
  rw [apart rule among] at overlaps
  cases overlaps

end Provisioning

end AuthRedirect
