import AuthRedirect.Proofs.ServiceHistory

/-!
Edits of metadata that are sent twice. Whatever happened to other organizations in the
meantime, the second time finds the rules that the first one stored, and they are the
rules that the edit asks for: the answer is the same and nothing is written.
-/

namespace AuthRedirect.Service

variable {settings : Settings} {repository after : Repository} {steps : List Step}

/-- A run of requests about others leaves the rules of an organization alone. -/
theorem get_run {organization : String}
    (elsewhere : ∀ request ∈ steps, request.organization ≠ organization) :
    (run settings repository steps).get organization = repository.get organization := by
  induction steps generalizing repository with
  | nil => rfl
  | cons request rest ih =>
      obtain ⟨first, later⟩ := List.forall_mem_cons.mp elsewhere
      have frame := (lawful_exchange settings repository request).frame organization first.symm
      have last : run settings repository (request :: rest) =
          run settings (exchange settings repository request).after rest := rfl
      rw [last, ih later]
      exact frame

/-- An edit that succeeded is stored as its answer says. -/
theorem of_updateMetadata_ok {organization updated : Organization} {edit : MetadataEdit}
    (done : updateMetadata settings repository organization edit = .ok (updated, after)) :
    ∃ current, updated = edit.apply settings { organization with redirectionRules := current } ∧
      after.get organization.id = .ok updated.redirectionRules := by
  have effect := updateMetadata_eq_ok_iff.mp done
  obtain ⟨_, same, stored⟩ := effect.get_updated
  cases same
  cases effect with
  | confirm _ edited _ => exact ⟨_, edited, stored⟩
  | provision _ edited _ _ _ => exact ⟨_, edited, stored⟩

/-- An edit that succeeded is made again with the organization that it answered, or with
an old copy, whatever rules that one carries. It succeeds, gives the same answer and
leaves the repository as it is. -/
theorem updateMetadata_again {organization updated copy : Organization} {edit : MetadataEdit}
    (done : updateMetadata settings repository organization edit = .ok (updated, after))
    (elsewhere : ∀ request ∈ steps, request.organization ≠ organization.id)
    (client : copy = updated ∨ ∃ rules, copy = { organization with redirectionRules := rules }) :
    updateMetadata settings (run settings after steps) copy edit =
      .ok (updated, run settings after steps) := by
  obtain ⟨current, edited, stored⟩ := of_updateMetadata_ok done
  have found : (run settings after steps).get organization.id = .ok updated.redirectionRules :=
    (get_run elsewhere).trans stored
  apply updateMetadata_eq_ok_iff.mpr
  rcases client with rfl | ⟨rules, rfl⟩
  · have id : copy.id = organization.id := by
      rw [edited]
      exact edit.id_apply settings _
    rw [← id] at found
    refine .confirm found ?_ rfl
    rw [edited]
    exact (edit.apply_apply settings _).symm
  · refine .confirm found ?_ rfl
    rw [edited]
    exact (edit.apply_stale settings { organization with redirectionRules := current }).symm

/-- The website is new to the old copy of the organization, which has no rules. -/
theorem updateMetadata_again_of_old_copy :
    let rules := Provisioning.provision {} [] (some "https://auth.acme.io")
    let updated : Organization :=
      { id := "o1", website := some "https://acme.io",
        authServerUrl := some "https://auth.acme.io", redirectionRules := rules }
    let last := run {} (.ready ⟨[("o1", rules)], 1⟩)
      [.put "o2" [], .updateMetadata { id := "o3" } {}]
    updateMetadata {} last { id := "o1" } { website := .set (some "https://acme.io") } =
      .ok (updated, last) := by
  intro rules updated last
  have done : updateMetadata {} (.ready ⟨[("o1", [])], 0⟩) { id := "o1" }
      { website := .set (some "https://acme.io") } =
        .ok (updated, .ready ⟨[("o1", rules)], 1⟩) := by decide +kernel
  exact updateMetadata_again done (by decide) (.inr ⟨[], rfl⟩)

end AuthRedirect.Service
