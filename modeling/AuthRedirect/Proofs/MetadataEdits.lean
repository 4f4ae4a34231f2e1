import AuthRedirect.Metadata
import AuthRedirect.Proofs.ProvisioningRuns

/-!
An edit of metadata over again. The edit decides on the fields without a look at the
rules, and provisioning finds its own rules there. So an edit that is made again
changes nothing, neither on the organization that it led to nor on an old copy with
the rules of that one.
-/

namespace AuthRedirect.MetadataEdit

variable (settings : Settings) (edit : MetadataEdit) (organization : Organization)

theorem id_withWebsite : (edit.withWebsite settings organization).id = organization.id := by
  unfold withWebsite
  split <;> rfl

theorem id_apply : (edit.apply settings organization).id = organization.id :=
  edit.id_withWebsite settings organization

/-! ## Other rules -/

variable (rules : List Rule)

theorem newWebsite?_with_rules :
    edit.newWebsite? { organization with redirectionRules := rules } =
      edit.newWebsite? organization := rfl

theorem withFields_with_rules :
    edit.withFields settings { organization with redirectionRules := rules } =
      { edit.withFields settings organization with redirectionRules := rules } := by
  unfold withFields withWebsite
  rw [newWebsite?_with_rules]
  cases edit.newWebsite? organization <;> rfl

theorem urlToProvision?_with_rules :
    edit.urlToProvision? settings { organization with redirectionRules := rules } =
      edit.urlToProvision? settings organization := by
  unfold urlToProvision?
  rw [withFields_with_rules]

theorem apply_with_rules :
    edit.apply settings { organization with redirectionRules := rules } =
      { edit.withFields settings organization with
        redirectionRules :=
          Provisioning.provision settings rules (edit.urlToProvision? settings organization) } := by
  unfold apply
  rw [withFields_with_rules, urlToProvision?_with_rules]

/-! ## The same edit again -/

/-- An old copy of the organization, with the rules that the edit led to. -/
theorem apply_stale :
    edit.apply settings
        { organization with
          redirectionRules := (edit.apply settings organization).redirectionRules } =
      edit.apply settings organization := by
  have settled := Provisioning.provision_provision settings organization.redirectionRules
    (edit.urlToProvision? settings organization)
  rw [apply_with_rules, apply_with_rules settings edit organization organization.redirectionRules]
  exact congrArg _ settled

theorem website_apply :
    (edit.apply settings organization).website = edit.website.apply organization.website := by
  change (edit.withWebsite settings organization).website = _
  unfold withWebsite newWebsite?
  cases edit.website with
  | keep => rfl
  | set website =>
      dsimp only
      split
      · next same =>
          split at same
          · next unchanged => exact unchanged.symm
          · cases same
      · next other =>
          split at other
          · cases other
          · cases other
            rfl

/-- After the edit, its website is no new one. -/
theorem newWebsite?_apply :
    edit.newWebsite? (edit.apply settings organization) = none := by
  unfold newWebsite?
  rw [website_apply]
  cases edit.website with
  | keep => rfl
  | set website => exact if_pos rfl

theorem withFields_apply :
    edit.withFields settings (edit.apply settings organization) =
      edit.apply settings organization := by
  unfold withFields withWebsite
  rw [newWebsite?_apply]
  have url : edit.authServerUrl.apply (edit.apply settings organization).authServerUrl =
      (edit.apply settings organization).authServerUrl := by
    change edit.authServerUrl.apply (edit.authServerUrl.apply _) = edit.authServerUrl.apply _
    cases edit.authServerUrl <;> rfl
  dsimp only
  rw [url]

/-- The organization that the edit led to. -/
theorem apply_apply :
    edit.apply settings (edit.apply settings organization) = edit.apply settings organization := by
  have unchanged := edit.withFields_apply settings organization
  have settled : edit.urlToProvision? settings (edit.apply settings organization) = none := by
    unfold urlToProvision?
    rw [unchanged]
    cases (edit.apply settings organization).authServerUrl with
    | none => rfl
    | some url => simp
  generalize edit.apply settings organization = edited at settled unchanged
  unfold apply
  dsimp only
  rw [settled, unchanged, Provisioning.provision_of_unusable rfl]

end AuthRedirect.MetadataEdit
