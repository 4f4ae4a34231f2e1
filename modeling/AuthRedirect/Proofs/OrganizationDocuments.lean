import AuthRedirect.Document.Organizations
import AuthRedirect.Proofs.JsonParts
import AuthRedirect.Proofs.RuleDocuments

/-!
Organizations that are written and read again. What is written of an organization and of its
roles leaves out members with default values; what is written of its rules leaves out
nothing but an unset description. `organizations_survive_storage` says that an organization
comes back from its document all the same, and that the rules in the document of an
organization are read, or refused, as they are in a document of their own.
-/

namespace AuthRedirect

open AuthRedirect.Text AuthRedirect.Json

/-! ## Members that are left out -/

namespace Json

variable {α : Type} {assign : α → String → Json → Checked α} {record : α}
  {isDefault : Bool} {name : String} {value : Json}

/-- The names of the members of an object. -/
def memberNames : Json → List String
  | .obj members => members.map (·.1)
  | _ => []

theorem mem_names_unless_iff {other : String} :
    other ∈ (Json.unless isDefault name value).map (·.1) ↔ other = name ∧ isDefault = false := by
  cases isDefault <;> simp [Json.unless]

theorem unless_sublist : (Json.unless isDefault name value).Sublist [(name, value)] := by
  cases isDefault with
  | false => exact List.Sublist.refl _
  | true => exact List.nil_sublist _

/-- A member that changes nothing by its default value may be left out. -/
theorem fill_unless (next : α) (rest : Members) (assigned : assign record name value = .ok next)
    (omitted : isDefault = true → next = record) :
    fill assign record (Json.unless isDefault name value ++ rest) = fill assign next rest := by
  cases isDefault with
  | true =>
      rw [omitted rfl]
      rfl
  | false => exact fill_cons rest assigned

/-- An object is plain when its members are among plain ones with distinct names. -/
theorem Plain.obj_of_sublist {members : Members} (all : Members)
    (sublist : members.Sublist all) (distinct : (all.map Prod.fst).Nodup)
    (plain : ∀ member ∈ all, Plain member.2) : Plain (.obj members) :=
  .obj ((sublist.map Prod.fst).nodup distinct) fun member among =>
    plain member (sublist.subset among)

theorem ofText?_plain (text : Option String) : Plain (Json.ofText? text) := by
  cases text with
  | none => exact .null
  | some text => exact .str text

theorem asStrOrNull_ofText? (text : Option String) :
    asStrOrNull (Json.ofText? text) = .ok text := by
  cases text <;> rfl

/-- A record that was filled in stands where the required member is there. -/
theorem requiring_eq_ok {field : String} {members : Members} {checked : Checked α}
    (filled : checked = .ok record) (present : hasMember field members = true) :
    requiring field members checked = .ok record := by
  rw [requiring, filled]
  change (if hasMember field members then Except.ok record else _) = _
  rw [if_pos present]

end Json

/-! ## Roles -/

theorem Role.ofJson_toJson (role : Role) : Role.ofJson role.toJson = .ok role := by
  obtain ⟨slug, name, isDefault, isSystem, showOnSignup⟩ := role
  have withSlug : Role.assign ⟨"", none, false, false, false⟩ "slug" (.str slug) =
      .ok ⟨slug, none, false, false, false⟩ :=
    rfl
  have named : Role.assign ⟨slug, none, false, false, false⟩ "name" (Json.ofText? name) =
      .ok ⟨slug, name, false, false, false⟩ := by
    simp only [Role.assign, asStrOrNull_ofText?]
    rfl
  refine Json.requiring_eq_ok ?_ rfl
  rw [List.append_assoc, List.append_assoc, List.append_assoc, List.singleton_append,
    Json.fill_cons _ withSlug, Json.fill_unless _ _ named (by cases name <;> simp),
    Json.fill_unless ⟨slug, name, isDefault, false, false⟩ _ rfl (by cases isDefault <;> simp),
    Json.fill_unless ⟨slug, name, isDefault, isSystem, false⟩ _ rfl (by cases isSystem <;> simp),
    ← List.append_nil (Json.unless _ _ _),
    Json.fill_unless ⟨slug, name, isDefault, isSystem, showOnSignup⟩ _ rfl
      (by cases showOnSignup <;> simp)]
  rfl

/-- All members of a role. -/
def Role.members (role : Role) : Members :=
  [("slug", .str role.slug), ("name", Json.ofText? role.name),
    ("isDefault", .bool role.isDefault), ("isSystem", .bool role.isSystem),
    ("showOnSignup", .bool role.showOnSignup)]

theorem Role.toJson_plain (role : Role) : Plain role.toJson := by
  refine .obj_of_sublist role.members ?_ (by simp [Role.members]) ?_
  · exact ((((List.Sublist.refl _).append unless_sublist).append unless_sublist).append
      unless_sublist).append unless_sublist
  · intro member among
    simp only [Role.members, List.mem_cons, List.not_mem_nil, or_false] at among
    rcases among with rfl | rfl | rfl | rfl | rfl
    exacts [.str _, ofText?_plain _, .bool _, .bool _, .bool _]

/-! ## Organizations -/

/-- The member that an organization has to have. -/
theorem Organization.assign_id (id : String) :
    Organization.assign ⟨"", none, none, [], []⟩ "id" (.str id) = .ok ⟨id, none, none, [], []⟩ :=
  rfl

theorem Organization.ofJson_toJson (organization : Organization) :
    Organization.ofJson organization.toJson = .ok organization := by
  obtain ⟨id, website, authServerUrl, roles, rules⟩ := organization
  have onWebsite : Organization.assign ⟨id, none, none, [], []⟩ "website"
      (Json.ofText? website) = .ok ⟨id, website, none, [], []⟩ := by
    simp only [Organization.assign, asStrOrNull_ofText?]
    rfl
  have onAuthServer : Organization.assign ⟨id, website, none, [], []⟩ "authServerUrl"
      (Json.ofText? authServerUrl) = .ok ⟨id, website, authServerUrl, [], []⟩ := by
    simp only [Organization.assign, asStrOrNull_ofText?]
    rfl
  have withRoles : Organization.assign ⟨id, website, authServerUrl, [], []⟩ "roles"
      (.arr (roles.map Role.toJson)) = .ok ⟨id, website, authServerUrl, roles, []⟩ := by
    simp only [Organization.assign, Json.asList_map Role.ofJson_toJson]
    rfl
  have withRules : Organization.assign ⟨id, website, authServerUrl, roles, []⟩
      "redirectionRules" (.arr (rules.map Rule.toJson)) =
        .ok ⟨id, website, authServerUrl, roles, rules⟩ := by
    simp only [Organization.assign, Json.asList_map Rule.ofJson_toJson]
    rfl
  refine Json.requiring_eq_ok ?_ rfl
  rw [List.append_assoc, List.append_assoc, List.append_assoc, List.singleton_append,
    Json.fill_cons _ (Organization.assign_id id),
    Json.fill_unless _ _ onWebsite (by cases website <;> simp),
    Json.fill_unless _ _ onAuthServer (by cases authServerUrl <;> simp),
    Json.fill_unless _ _ withRoles (by cases roles <;> simp),
    ← List.append_nil (Json.unless _ _ _),
    Json.fill_unless _ _ withRules (by cases rules <;> simp)]
  rfl

/-- All members of an organization. -/
def Organization.members (organization : Organization) : Members :=
  [("id", .str organization.id), ("website", Json.ofText? organization.website),
    ("authServerUrl", Json.ofText? organization.authServerUrl),
    ("roles", .arr (organization.roles.map Role.toJson)),
    ("redirectionRules", .arr (organization.redirectionRules.map Rule.toJson))]

theorem Organization.toJson_plain (organization : Organization) : Plain organization.toJson := by
  refine .obj_of_sublist organization.members ?_ (by simp [Organization.members]) ?_
  · exact ((((List.Sublist.refl _).append unless_sublist).append unless_sublist).append
      unless_sublist).append unless_sublist
  · intro member among
    simp only [Organization.members, List.mem_cons, List.not_mem_nil, or_false] at among
    rcases among with rfl | rfl | rfl | rfl | rfl
    exacts [.str _, ofText?_plain _, ofText?_plain _, .arr_map Role.toJson_plain _,
      .arr_map Rule.toJson_plain _]

/-- Which members stand in the document of an organization: of the organization and its
roles those whose values are not the defaults, of its rules and their targets all that have
a value. -/
structure WrittenWhereSet (organization : Organization) : Prop where
  ofOrganization : ∀ name, name ∈ memberNames organization.toJson ↔
    name = "id" ∨ (name = "website" ∧ organization.website ≠ none) ∨
      (name = "authServerUrl" ∧ organization.authServerUrl ≠ none) ∨
      (name = "roles" ∧ organization.roles ≠ []) ∨
      (name = "redirectionRules" ∧ organization.redirectionRules ≠ [])
  ofRole : ∀ role ∈ organization.roles, ∀ name, name ∈ memberNames role.toJson ↔
    name = "slug" ∨ (name = "name" ∧ role.name ≠ none) ∨
      (name = "isDefault" ∧ role.isDefault = true) ∨
      (name = "isSystem" ∧ role.isSystem = true) ∨
      (name = "showOnSignup" ∧ role.showOnSignup = true)
  ofRule : ∀ rule ∈ organization.redirectionRules, ∀ name, name ∈ memberNames rule.toJson ↔
    name ∈ ["environment", "authPageUrl", "roleSlug", "targets", "locked"] ∨
      (name = "description" ∧ rule.description ≠ none)
  ofTarget : ∀ rule ∈ organization.redirectionRules, ∀ target ∈ rule.targets, ∀ name,
    name ∈ memberNames target.toJson ↔ name ∈ ["url", "isDefault"]

theorem writtenWhereSet (organization : Organization) : WrittenWhereSet organization where
  ofOrganization name := by
    cases website : organization.website <;>
      cases authServerUrl : organization.authServerUrl <;>
      simp [Organization.toJson, memberNames, mem_names_unless_iff, website, authServerUrl]
  ofRole role _ name := by
    cases shown : role.name <;>
      simp [Role.toJson, memberNames, mem_names_unless_iff, shown]
  ofRule rule _ name := by
    cases set : rule.description with
    | none => simp [Rule.toJson, memberNames, set]
    | some description =>
        simp only [Rule.toJson, memberNames, set, Option.map_some, Option.toList_some,
          List.map_append, List.map_cons, List.map_nil, List.mem_append, List.mem_cons,
          List.not_mem_nil, or_false, ne_eq, reduceCtorEq, not_false_eq_true, and_true]
        tauto
  ofTarget _ _ target _ name := by
    simp [Target.toJson, memberNames]

/-- An organization with nothing but rules reads them as its member. -/
theorem Organization.ofJson_rules (id : String) (items : List Json) :
    Organization.ofJson (.obj [("id", .str id), ("redirectionRules", .arr items)]) =
      within (.member "redirectionRules") ((itemsFrom Rule.ofJson 0 items).map fun rules =>
        { id := id, redirectionRules := rules }) := by
  rw [Organization.ofJson, Json.fill_cons _ (Organization.assign_id id), fill, requiring,
    Organization.assign, asList]
  cases itemsFrom Rule.ofJson 0 items <;> rfl

namespace Document

/-! ## Documents -/

theorem decodeOrganization_of_parse {s : RawText} {value : Json}
    (read : Json.parse s = .ok value) :
    decodeOrganization s = ofChecked .organization (Organization.ofJson value) := by
  rw [decodeOrganization, parse, read]
  rfl

/-- The bytes of the document of an organization. -/
def organizationBytes (organization : Organization) : List UInt8 :=
  Utf8.encode (encodeOrganization organization).toList

theorem decodeOrganization_organizationBytes (organization : Organization) :
    decodeOrganization (Utf8.decode (organizationBytes organization)) = .ok organization := by
  have read : Json.parse (Utf8.decode (organizationBytes organization)) =
      .ok organization.toJson := by
    rw [organizationBytes, Utf8.decode_encode, encodeOrganization, ← rawText]
    exact parse_documentText organization.toJson_plain
  rw [decodeOrganization_of_parse read, Organization.ofJson_toJson]
  rfl

/-- The document of an organization with an id and the rules of a document, which is put in
as it stands. -/
def organizationText (id : String) (rules : RawText) : RawText :=
  some '\x7b' :: ((quote escape "id" ++ ':' :: quote escape id).map some ++
    some ',' :: ((quote escape "redirectionRules").map some ++
      some ':' :: (rules ++ [some '\x7d'])))

theorem parse_organizationText (id : String) {s : RawText} {items : List Json}
    (array : Json.parse s = .ok (.arr items)) :
    Json.parse (organizationText id s) =
      .ok (.obj [("id", .str id), ("redirectionRules", .arr items)]) := by
  have named := State.read_firstName "id" []
  have namedNext := State.read_name [("id", .str id)] "redirectionRules" []
  have opened (rest : RawText) : readFrom (.awaitValue []) .between (some '\x7b' :: rest) =
      readFrom (.awaitFirstName []) .between rest :=
    readFrom_of_tokens rfl rfl
  have comma (rest : RawText) :
      readFrom (.afterMember [("id", .str id)] []) .between (some ',' :: rest) =
        readFrom (.awaitName [("id", .str id)] []) .between rest :=
    readFrom_of_tokens rfl rfl
  have colon (rest : RawText) :
      readFrom (.awaitColon [("id", .str id)] "redirectionRules" []) .between
          (some ':' :: rest) =
        readFrom (.awaitValue [.object [("id", .str id)] "redirectionRules"]) .between rest :=
    readFrom_of_tokens rfl rfl
  have member := readFrom_member escape_faithful named (reads_of_plain escape_faithful (.str id))
  rw [render] at member
  rw [parse_eq, organizationText, opened, member, put, comma,
    readFrom_of_tokens (tokensAfter_quote escape_faithful _ _) namedNext, colon,
    readFrom_array array]
  rfl

/-- A failure to read rules that an organization holds. -/
def DecodeError.inOrganization : DecodeError → DecodeError
  | .malformed _ => .malformed .organization
  | .undecodable => .undecodable
  | .notAnArray => .notAnArray
  | .unfit _ mismatch =>
      .unfit .organization
        { mismatch with path := .member "redirectionRules" :: mismatch.path }

theorem decodeOrganization_organizationText (id : String) {s : RawText} {items : List Json}
    (array : Json.parse s = .ok (.arr items)) :
    decodeOrganization (organizationText id s) =
      ((decodeRules s).map fun rules =>
        { id := id, redirectionRules := rules }).mapError DecodeError.inOrganization := by
  rw [decodeOrganization_of_parse (parse_organizationText id array), Organization.ofJson_rules,
    decodeRules, parse, array]
  change _ = ((ofChecked .rules (itemsFrom Rule.ofJson 0 items)).map _).mapError _
  cases itemsFrom Rule.ofJson 0 items <;> rfl

/-- Organizations come back from their bytes as they were, although what has its default
value is left out of them. Rules are read as the member of an organization just as they are
read alone: what does not fit is refused there too, with the same fault at the same place. -/
theorem organizations_survive_storage :
    (∀ organization : Organization,
      decodeOrganization (Utf8.decode (organizationBytes organization)) = .ok organization ∧
        WrittenWhereSet organization) ∧
      ∀ id s items, Json.parse s = .ok (.arr items) →
        decodeOrganization (organizationText id s) =
          ((decodeRules s).map fun rules =>
            { id := id, redirectionRules := rules }).mapError DecodeError.inOrganization :=
  ⟨fun organization =>
      ⟨decodeOrganization_organizationBytes organization, writtenWhereSet organization⟩,
    fun id _ _ array => decodeOrganization_organizationText id array⟩

theorem organization_with_legacyText :
    ∃ items, Json.parse (rawText legacyText) = .ok (.arr items) ∧
      decodeOrganization (organizationText "o1" (rawText legacyText)) =
        .ok { id := "o1", redirectionRules := [legacyRule] } := by
  have read : decodeRules (rawText legacyText) = .ok [legacyRule] := by
    decide +kernel
  obtain ⟨items, array, -⟩ := exists_array_of_decodeRules read
  refine ⟨items, array, ?_⟩
  rw [organizations_survive_storage.2 "o1" _ _ array, read]
  rfl

/-- Not all that a rule has is written: a description that is unset is left out. -/
theorem not_all_members_written :
    ¬ ∀ organization : Organization, ∀ rule ∈ organization.redirectionRules,
      ∀ name ∈ ["environment", "authPageUrl", "roleSlug", "targets", "description", "locked"],
        name ∈ memberNames rule.toJson := by
  intro written
  have described := written ⟨"o1", none, none, [], [legacyRule]⟩ legacyRule
    (List.mem_singleton_self _) "description" (by decide)
  exact absurd described (by decide)

end Document

end AuthRedirect
