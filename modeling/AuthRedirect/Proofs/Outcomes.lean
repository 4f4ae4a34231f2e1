/-!
Outcomes of what may fail. A step behind another one comes to a value where both do, and a run
of steps fails at its first step that fails.
-/

namespace AuthRedirect

variable {α β δ ε : Type} {first : Except ε α} {next : α → Except ε β} {outcome : Except δ α}
  {rename : δ → ε} {failure : ε}

theorem bind_eq_ok_iff {value : β} :
    (first >>= next) = .ok value ↔ ∃ middle, first = .ok middle ∧ next middle = .ok value := by
  cases first <;> simp [bind, Except.bind]

theorem bind_eq_error_iff :
    (first >>= next) = .error failure ↔
      first = .error failure ∨ ∃ middle, first = .ok middle ∧ next middle = .error failure := by
  cases first <;> simp [bind, Except.bind]

theorem map_eq_ok_iff {change : α → β} {value : β} :
    first.map change = .ok value ↔ ∃ x, first = .ok x ∧ change x = value := by
  cases first <;> simp [Except.map]

theorem mapError_eq_ok_iff {value : α} :
    outcome.mapError rename = .ok value ↔ outcome = .ok value := by
  cases outcome with
  | ok found =>
      change Except.ok found = Except.ok value ↔ _
      simp
  | error cause =>
      change Except.error (rename cause) = Except.ok value ↔ _
      simp

theorem mapError_eq_error_iff :
    outcome.mapError rename = .error failure ↔
      ∃ cause, outcome = .error cause ∧ rename cause = failure := by
  cases outcome with
  | ok found =>
      change Except.ok found = Except.error failure ↔ _
      simp
  | error cause =>
      change Except.error (rename cause) = Except.error failure ↔ _
      simp

/-- What every step preserves on the inputs of a run, the run preserves. -/
theorem foldlM_preserves_of_mem {Holds : α → Prop} {step : α → β → Except ε α}
    {state last : α} {inputs : List β}
    (keeps : ∀ state input next, input ∈ inputs → Holds state →
      step state input = .ok next → Holds next)
    (holds : Holds state) (run : inputs.foldlM step state = .ok last) : Holds last := by
  induction inputs generalizing state with
  | nil =>
      cases run
      exact holds
  | cons input inputs ih =>
      rw [List.foldlM_cons] at run
      obtain ⟨next, stepped, later⟩ := bind_eq_ok_iff.mp run
      exact ih (fun state input next among => keeps state input next (List.mem_cons_of_mem _ among))
        (keeps state input next List.mem_cons_self holds stepped) later

/-- What every step preserves, a run preserves. -/
theorem foldlM_preserves {Holds : α → Prop} {step : α → β → Except ε α}
    (keeps : ∀ state input next, Holds state → step state input = .ok next → Holds next)
    {state last : α} {inputs : List β} (holds : Holds state)
    (run : inputs.foldlM step state = .ok last) : Holds last :=
  foldlM_preserves_of_mem (fun state input next _ => keeps state input next) holds run

/-- A run fails at the first input that its step refuses. -/
theorem foldlM_eq_error_iff {state : α} {step : α → β → Except ε α} {inputs : List β} :
    inputs.foldlM step state = .error failure ↔
      ∃ before input after reached, inputs = before ++ input :: after ∧
        before.foldlM step state = .ok reached ∧ step reached input = .error failure := by
  constructor
  · intro failed
    induction inputs generalizing state with
    | nil => cases failed
    | cons input inputs ih =>
        rw [List.foldlM_cons, bind_eq_error_iff] at failed
        rcases failed with here | ⟨next, stepped, later⟩
        · exact ⟨[], input, inputs, state, rfl, rfl, here⟩
        · obtain ⟨before, refused, after, reached, rfl, run, refusal⟩ := ih later
          refine ⟨input :: before, refused, after, reached, rfl, ?_, refusal⟩
          rw [List.foldlM_cons, stepped]
          exact run
  · rintro ⟨before, input, after, reached, rfl, run, refusal⟩
    rw [List.foldlM_append, run]
    change (input :: after).foldlM step reached = _
    rw [List.foldlM_cons]
    exact bind_eq_error_iff.mpr (.inl refusal)

end AuthRedirect
