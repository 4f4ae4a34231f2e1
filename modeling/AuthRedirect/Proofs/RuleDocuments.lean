import AuthRedirect.Document.Rules
import AuthRedirect.Proofs.JsonRoundTrip
import AuthRedirect.Proofs.Outcomes

/-!
Rules that are written and read again. `rules_survive_storage` says that rules
come back from their document as they were, with a description that is unset
kept apart from an empty one, and that a document of any age, once its rules have
been written anew, stays the same from then on.
-/

namespace AuthRedirect

open AuthRedirect.Text AuthRedirect.Json

/-! ## From values -/

/-- Items are read in order when each of them is. -/
theorem Json.itemsFrom_map {α : Type} {check : Json → Checked α} {write : α → Json}
    (reads : ∀ x, check (write x) = .ok x) (xs : List α) (index : Nat) :
    itemsFrom check index (xs.map write) = .ok xs := by
  induction xs generalizing index with
  | nil => rfl
  | cons x xs ih =>
      rw [List.map_cons, itemsFrom, reads, ih]
      rfl

theorem Json.asList_map {α : Type} {check : Json → Checked α} {write : α → Json}
    (reads : ∀ x, check (write x) = .ok x) (xs : List α) :
    asList check (.arr (xs.map write)) = .ok xs :=
  itemsFrom_map reads xs 0

theorem Target.ofJson_toJson (target : Target) : Target.ofJson target.toJson = .ok target :=
  rfl

/-- A member that passes its check is taken over, and the others follow. -/
theorem Json.fill_cons {α : Type} {assign : α → String → Json → Checked α} {record next : α}
    {name : String} {value : Json} (rest : Members)
    (assigned : assign record name value = .ok next) :
    fill assign record ((name, value) :: rest) = fill assign next rest := by
  rw [fill, assigned]
  rfl

/-- What is written of a rule has no member that is dropped or renamed. -/
theorem Rule.ofJson_toJson_eq_fill (rule : Rule) :
    Rule.ofJson rule.toJson = fill Rule.assign Rule.unfilled
      ([("environment", .str rule.environment), ("authPageUrl", .str rule.authPageUrl),
        ("roleSlug", .str rule.roleSlug), ("targets", .arr (rule.targets.map Target.toJson))] ++
      (rule.description.map fun description => ("description", Json.str description)).toList ++
      [("locked", .bool rule.locked)]) := by
  obtain ⟨environment, authPageUrl, roleSlug, targets, description, locked⟩ := rule
  cases description <;> rfl

theorem Rule.ofJson_toJson (rule : Rule) : Rule.ofJson rule.toJson = .ok rule := by
  rw [Rule.ofJson_toJson_eq_fill]
  obtain ⟨environment, authPageUrl, roleSlug, targets, description, locked⟩ := rule
  have assigned (filled : Rule) :
      Rule.assign filled "targets" (.arr (targets.map Target.toJson)) =
        .ok { filled with targets := targets } := by
    simp only [Rule.assign, Json.asList_map Target.ofJson_toJson]
    rfl
  simp only [List.cons_append, List.nil_append]
  rw [Json.fill_cons _ rfl, Json.fill_cons _ rfl, Json.fill_cons _ rfl,
    Json.fill_cons _ (assigned _)]
  cases description with
  | none => exact Json.fill_cons _ rfl
  | some description => exact (Json.fill_cons _ rfl).trans (Json.fill_cons _ rfl)

/-! ## What is written is plain -/

theorem Json.Plain.arr_map {α : Type} {write : α → Json} (plain : ∀ x, Plain (write x))
    (xs : List α) : Plain (.arr (xs.map write)) := by
  apply Plain.arr
  intro item among
  obtain ⟨x, -, rfl⟩ := List.mem_map.mp among
  exact plain x

theorem Target.toJson_plain (target : Target) : Plain target.toJson := by
  refine .obj (by simp) ?_
  intro member among
  rcases List.mem_cons.mp among with rfl | among
  · exact .str _
  · rw [List.mem_singleton.mp among]
    exact .bool _

theorem Rule.toJson_plain (rule : Rule) : Plain rule.toJson := by
  obtain ⟨environment, authPageUrl, roleSlug, targets, description, locked⟩ := rule
  have listed : Plain (.arr (targets.map Target.toJson)) := .arr_map Target.toJson_plain targets
  cases description with
  | none =>
      refine .obj (by simp) ?_
      intro member among
      simp only [Option.map_none, Option.toList_none, List.append_nil, List.cons_append,
        List.nil_append, List.mem_cons, List.not_mem_nil, or_false] at among
      rcases among with rfl | rfl | rfl | rfl | rfl
      exacts [.str _, .str _, .str _, listed, .bool _]
  | some description =>
      refine .obj (by simp) ?_
      intro member among
      simp only [Option.map_some, Option.toList_some, List.cons_append, List.nil_append,
        List.mem_cons, List.not_mem_nil, or_false] at among
      rcases among with rfl | rfl | rfl | rfl | rfl | rfl
      exacts [.str _, .str _, .str _, listed, .str _, .bool _]

namespace Document

/-! ## Documents -/

/-- Rules are read back from their document. -/
theorem decodeRules_encodeRules (rules : List Rule) :
    decodeRules (rawText (encodeRules rules)) = .ok rules := by
  have plain : Plain (.arr (rules.map Rule.toJson)) := .arr_map Rule.toJson_plain rules
  have read : parse .rules (rawText (encodeRules rules)) = .ok (.arr (rules.map Rule.toJson)) := by
    rw [parse, encodeRules, parse_documentText plain]
    rfl
  have checked :
      ofChecked .rules (itemsFrom Rule.ofJson 0 (rules.map Rule.toJson)) = .ok rules := by
    rw [itemsFrom_map Rule.ofJson_toJson]
    rfl
  rw [decodeRules, read]
  exact checked

/-- Rules are read from arrays only. -/
theorem exists_array_of_decodeRules {s : RawText} {rules : List Rule}
    (read : decodeRules s = .ok rules) :
    ∃ items, Json.parse s = .ok (.arr items) ∧
      ofChecked .rules (itemsFrom Rule.ofJson 0 items) = .ok rules := by
  obtain ⟨value, parsed, checked⟩ := bind_eq_ok_iff.mp read
  have parsed := mapError_eq_ok_iff.mp parsed
  cases value with
  | arr items => exact ⟨items, parsed, checked⟩
  | _ => cases checked

/-- The bytes of the document of rules. -/
def ruleBytes (rules : List Rule) : List UInt8 :=
  Utf8.encode (encodeRules rules).toList

/-- The bytes of the document of the rules that a document has. -/
def recode (s : RawText) : Except DecodeError (List UInt8) := do
  let rules ← decodeRules s
  return ruleBytes rules

theorem decodeRules_ruleBytes (rules : List Rule) :
    decodeRules (Utf8.decode (ruleBytes rules)) = .ok rules := by
  rw [ruleBytes, Utf8.decode_encode]
  exact decodeRules_encodeRules rules

/-- Rules come back from their bytes as they were. A document whose rules can be
read is written anew with the same rules, and writing that document anew leaves
every byte as it is. -/
theorem rules_survive_storage :
    (∀ rules, decodeRules (Utf8.decode (ruleBytes rules)) = .ok rules) ∧
      ∀ s rules, decodeRules s = .ok rules →
        ∃ bytes, recode s = .ok bytes ∧ decodeRules (Utf8.decode bytes) = .ok rules ∧
          recode (Utf8.decode bytes) = .ok bytes := by
  refine ⟨decodeRules_ruleBytes, fun s rules read => ⟨ruleBytes rules, ?_, ?_, ?_⟩⟩
  · rw [recode, read]
    rfl
  · exact decodeRules_ruleBytes rules
  · rw [recode, decodeRules_ruleBytes]
    rfl

/-- A document of an older console: other names for two members, and a member
that is `null`. -/
def legacyText : String :=
  "[\x7b\"env\":\"production\",\"authPageUrl\":\"https://auth.acme.io\",\"description\":null," ++
    "\"redirectionUrls\":[\x7b\"url\":\"https://acme.io/\\u00e9\"\x7d]\x7d]"

/-- The rule of that document. -/
def legacyRule : Rule where
  environment := "production"
  authPageUrl := "https://auth.acme.io"
  targets := [⟨"https://acme.io/é", false⟩]

theorem legacyText_survives_storage :
    decodeRules (rawText legacyText) = .ok [legacyRule] ∧
      ∃ bytes, recode (rawText legacyText) = .ok bytes ∧
        decodeRules (Utf8.decode bytes) = .ok [legacyRule] ∧
        recode (Utf8.decode bytes) = .ok bytes := by
  have read : decodeRules (rawText legacyText) = .ok [legacyRule] := by
    decide +kernel
  exact ⟨read, rules_survive_storage.2 _ _ read⟩

end Document

end AuthRedirect
