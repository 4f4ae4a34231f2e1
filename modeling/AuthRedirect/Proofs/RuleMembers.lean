import AuthRedirect.Document.Rules
import AuthRedirect.Proofs.MemberNames
import Mathlib.Data.List.Forall2
import Mathlib.Data.List.Induction
import Mathlib.Tactic.MkIffOfInductiveProp
import Mathlib.Tactic.SplitIfs
import Mathlib.Tactic.Tauto

/-!
Members of rules and of their targets. An object is taken by what it gives under a name: the
last member of that name, or of the older name for it, that is not `null`. Each field of a
record is filled in from what is given for it, whatever the other members are
(`Rule.fill_eq_ok_iff`).
-/

namespace AuthRedirect

open AuthRedirect.Json

/-! ## What an object gives -/

namespace Json

variable {members : Members} {value : Json}

/-- What an object gives under one of the names: the value of the last member with such a
name that is not `null`. -/
def given? (names : List String) (members : Members) : Option Json :=
  ((members.filter fun member => names.contains member.1 && !member.2.isNull).getLast?).map (·.2)

theorem given?_concat (names : List String) (members : Members) (name : String) (value : Json) :
    given? names (members ++ [(name, value)]) =
      if names.contains name && !value.isNull then some value else given? names members := by
  simp only [given?, List.filter_append, List.filter_cons, List.filter_nil]
  split
  · simp
  · rw [List.append_nil]

theorem mem_of_given? {names : List String} (given : given? names members = some value) :
    ∃ name, (name, value) ∈ members := by
  obtain ⟨⟨name, _⟩, last, rfl⟩ := Option.map_eq_some_iff.mp given
  exact ⟨name, (List.mem_filter.mp (List.mem_of_getLast? last)).1⟩

theorem find?_append (name : String) (members others : Members) :
    find? name (members ++ others) = (find? name members).or (find? name others) := by
  simp only [find?, List.find?_append]
  cases members.find? fun member => member.1 == name <;> rfl

/-- With distinct names, what is found once the members that are `null` are left out is what
is given. -/
theorem find?_filter_isNull (distinct : (members.map Prod.fst).Nodup) (name : String) :
    find? name (members.filter fun member => !member.2.isNull) = given? [name] members := by
  induction members using List.reverseRecOn with
  | nil => rfl
  | append_singleton before member ih =>
      obtain ⟨last, value⟩ := member
      simp only [List.map_append, List.map_cons, List.map_nil, List.nodup_append,
        List.mem_singleton, forall_eq] at distinct
      obtain ⟨distinct, -, apart⟩ := distinct
      rw [given?_concat, ← ih distinct, List.filter_append, find?_append]
      by_cases same : last = name
      · subst same
        have absent : find? last (before.filter fun member => !member.2.isNull) = none := by
          refine find?_of_not_mem fun among => ?_
          exact apart last ((List.filter_sublist.map Prod.fst).subset among) rfl
        rw [absent]
        cases void : value.isNull <;> simp [find?, void]
      · have other : find? name ([(last, value)].filter fun member => !member.2.isNull) = none := by
          cases void : value.isNull <;> simp [find?, void, same]
        rw [other]
        simp [same]

end Json

/-- The members of a rule are upgraded one by one. -/
theorem Rule.upgrade_concat (members : Members) (name : String) (value : Json) :
    Rule.upgrade (members ++ [(name, value)]) =
      if value.isNull then Rule.upgrade members
      else put (Rule.upgrade members) (Rule.currentName name) value := by
  simp [Rule.upgrade]

theorem Rule.nodup_upgrade (members : Members) : ((Rule.upgrade members).map Prod.fst).Nodup := by
  induction members using List.reverseRecOn with
  | nil => exact List.nodup_nil
  | append_singleton before member ih =>
      rw [Rule.upgrade_concat]
      split
      · exact ih
      · exact nodup_put ih _ _

/-- The members that count for a rule, each with all its names. -/
def Rule.fields : List (String × List String) :=
  [("environment", ["environment", "env"]), ("authPageUrl", ["authPageUrl"]),
    ("roleSlug", ["roleSlug"]), ("targets", ["targets", "redirectionUrls"]),
    ("description", ["description"]), ("locked", ["locked"])]

theorem Rule.mem_names_iff {name other : String} {names : List String}
    (field : (name, names) ∈ Rule.fields) : other ∈ names ↔ Rule.currentName other = name := by
  unfold Rule.currentName
  simp only [Rule.fields, List.mem_cons, Prod.mk.injEq, List.not_mem_nil, or_false] at field
  rcases field with ⟨rfl, rfl⟩ | ⟨rfl, rfl⟩ | ⟨rfl, rfl⟩ | ⟨rfl, rfl⟩ | ⟨rfl, rfl⟩ | ⟨rfl, rfl⟩
  all_goals split_ifs <;> simp_all

/-- What an upgraded object has under a name is what is given under all names for it. -/
theorem Rule.find?_upgrade {name : String} {names : List String}
    (field : (name, names) ∈ Rule.fields) (members : Members) :
    find? name (Rule.upgrade members) = given? names members := by
  -- From the end, since the last of several members counts on both sides.
  induction members using List.reverseRecOn with
  | nil => rfl
  | append_singleton before member ih =>
      obtain ⟨last, value⟩ := member
      rw [Rule.upgrade_concat, given?_concat]
      cases void : value.isNull with
      | true => simpa using ih
      | false => simp [find?_put, Rule.mem_names_iff field, ih]

/-! ## Records that are filled in -/

namespace Json

variable {α : Type} {members rest : Members} {name : String} {value : Json}

theorem within_eq_ok_iff {step : Step} {checked : Checked α} {found : α} :
    within step checked = .ok found ↔ checked = .ok found := by
  cases checked <;> simp [within]

theorem asStr_eq_ok_iff {text : String} : asStr value = .ok text ↔ value = .str text := by
  cases value <;> simp [asStr, wrongKind]

theorem asBool_eq_ok_iff {flag : Bool} : asBool value = .ok flag ↔ value = .bool flag := by
  cases value <;> simp [asBool, wrongKind]

theorem itemsFrom_eq_ok_iff {check : Json → Checked α} {items : List Json} {found : List α}
    (index : Nat) : itemsFrom check index items = .ok found ↔
      List.Forall₂ (fun item x => check item = .ok x) items found := by
  induction items generalizing index found with
  | nil => simp [itemsFrom, eq_comm]
  | cons item items ih =>
      simp only [itemsFrom, bind_eq_ok_iff, within_eq_ok_iff, ih, List.forall₂_cons_left_iff]
      constructor
      · rintro ⟨x, checked, xs, others, ended⟩
        cases ended
        exact ⟨x, xs, checked, others, rfl⟩
      · rintro ⟨x, xs, checked, others, rfl⟩
        exact ⟨x, checked, xs, others, rfl⟩

theorem asList_eq_ok_iff {check : Json → Checked α} {found : List α} :
    asList check value = .ok found ↔
      ∃ items, value = .arr items ∧
        List.Forall₂ (fun item x => check item = .ok x) items found := by
  cases value with
  | arr items => simp [asList, itemsFrom_eq_ok_iff]
  | _ => simp [asList, wrongKind]

/-- Whether a field of a record gets the value that a check makes of what is found, and
stays as it was if nothing is found. -/
def Takes (check : Json → Checked α) (before : α) (found : Option Json) (after : α) : Prop :=
  match found with
  | none => before = after
  | some value => check value = .ok after

/-- A field is filled in by one member after the other. -/
theorem takes_cons_iff {check : Json → Checked α} {before after : α} (field : String)
    (absent : name ∉ rest.map Prod.fst) :
    Takes check before (find? field ((name, value) :: rest)) after ↔
      ∃ middle, Takes check before (find? field [(name, value)]) middle ∧
        Takes check middle (find? field rest) after := by
  by_cases same : name = field
  · subst same
    rw [find?_of_not_mem absent]
    simp [find?, Takes]
  · simp [find?, Takes, same]

/-- What filling in a record comes to, from what one member and nothing come to. -/
theorem fill_eq_ok_iff {assign : α → String → Json → Checked α} {Filled : α → Members → α → Prop}
    (none : ∀ {before after}, Filled before [] after ↔ before = after)
    (one : ∀ {before name value after},
      assign before name value = .ok after ↔ Filled before [(name, value)] after)
    (cons : ∀ {before name value rest after}, name ∉ rest.map Prod.fst →
      (Filled before ((name, value) :: rest) after ↔
        ∃ middle, Filled before [(name, value)] middle ∧ Filled middle rest after))
    {before after : α} (distinct : (members.map Prod.fst).Nodup) :
    fill assign before members = .ok after ↔ Filled before members after := by
  induction members generalizing before with
  | nil => simp [fill, none]
  | cons member rest ih =>
      obtain ⟨name, value⟩ := member
      obtain ⟨absent, distinct⟩ := List.nodup_cons.mp distinct
      rw [cons absent, fill, bind_eq_ok_iff]
      simp only [within_eq_ok_iff, one, ih distinct]

end Json

/-- How the members of an object fill in a target. -/
@[mk_iff]
structure Target.Filled (before : Target) (members : Members) (after : Target) : Prop where
  url : Takes asStr before.url (find? "url" members) after.url
  isDefault : Takes asBool before.isDefault (find? "isDefault" members) after.isDefault

theorem Target.assign_eq_ok_iff {before after : Target} {name : String} {value : Json} :
    Target.assign before name value = .ok after ↔
      Target.Filled before [(name, value)] after := by
  obtain ⟨url, isDefault⟩ := before
  obtain ⟨url', isDefault'⟩ := after
  unfold Target.assign
  -- The cases are the names of the fields, and all other names.
  split
  all_goals
    simp_all [Target.filled_iff, find?, Takes, bind_eq_ok_iff, pure, Except.pure, -Bool.exists_bool]
  all_goals tauto

/-- How the members of an object fill in a rule. -/
@[mk_iff]
structure Rule.Filled (before : Rule) (members : Members) (after : Rule) : Prop where
  environment : Takes asStr before.environment (find? "environment" members) after.environment
  authPageUrl : Takes asStr before.authPageUrl (find? "authPageUrl" members) after.authPageUrl
  roleSlug : Takes asStr before.roleSlug (find? "roleSlug" members) after.roleSlug
  targets : Takes (asList Target.ofJson) before.targets (find? "targets" members) after.targets
  description : Takes (fun value => (asStr value).map some) before.description
    (find? "description" members) after.description
  locked : Takes asBool before.locked (find? "locked" members) after.locked

theorem Rule.assign_eq_ok_iff {before after : Rule} {name : String} {value : Json} :
    Rule.assign before name value = .ok after ↔ Rule.Filled before [(name, value)] after := by
  obtain ⟨environment, authPageUrl, roleSlug, targets, description, locked⟩ := before
  obtain ⟨environment', authPageUrl', roleSlug', targets', description', locked'⟩ := after
  unfold Rule.assign
  -- The cases are the names of the fields, and all other names.
  split
  all_goals
    simp_all [Rule.filled_iff, find?, Takes, bind_eq_ok_iff, map_eq_ok_iff, pure, Except.pure,
      -Bool.exists_bool]
  all_goals tauto

theorem Target.filled_cons_iff {before after : Target} {name : String} {value : Json}
    {rest : Members} (absent : name ∉ rest.map Prod.fst) :
    Target.Filled before ((name, value) :: rest) after ↔
      ∃ middle, Target.Filled before [(name, value)] middle ∧
        Target.Filled middle rest after := by
  constructor
  · intro filled
    obtain ⟨url, url', url''⟩ := (takes_cons_iff "url" absent).mp filled.url
    obtain ⟨isDefault, isDefault', isDefault''⟩ :=
      (takes_cons_iff "isDefault" absent).mp filled.isDefault
    exact ⟨⟨url, isDefault⟩, ⟨url', isDefault'⟩, ⟨url'', isDefault''⟩⟩
  · rintro ⟨middle, here, later⟩
    exact ⟨(takes_cons_iff _ absent).mpr ⟨_, here.url, later.url⟩,
      (takes_cons_iff _ absent).mpr ⟨_, here.isDefault, later.isDefault⟩⟩

theorem Rule.filled_cons_iff {before after : Rule} {name : String} {value : Json}
    {rest : Members} (absent : name ∉ rest.map Prod.fst) :
    Rule.Filled before ((name, value) :: rest) after ↔
      ∃ middle, Rule.Filled before [(name, value)] middle ∧ Rule.Filled middle rest after := by
  constructor
  · intro filled
    obtain ⟨environment, e, e'⟩ := (takes_cons_iff _ absent).mp filled.environment
    obtain ⟨authPageUrl, a, a'⟩ := (takes_cons_iff _ absent).mp filled.authPageUrl
    obtain ⟨roleSlug, r, r'⟩ := (takes_cons_iff _ absent).mp filled.roleSlug
    obtain ⟨targets, t, t'⟩ := (takes_cons_iff _ absent).mp filled.targets
    obtain ⟨description, d, d'⟩ := (takes_cons_iff _ absent).mp filled.description
    obtain ⟨locked, l, l'⟩ := (takes_cons_iff _ absent).mp filled.locked
    exact ⟨⟨environment, authPageUrl, roleSlug, targets, description, locked⟩,
      ⟨e, a, r, t, d, l⟩, ⟨e', a', r', t', d', l'⟩⟩
  · rintro ⟨middle, here, later⟩
    exact ⟨(takes_cons_iff _ absent).mpr ⟨_, here.environment, later.environment⟩,
      (takes_cons_iff _ absent).mpr ⟨_, here.authPageUrl, later.authPageUrl⟩,
      (takes_cons_iff _ absent).mpr ⟨_, here.roleSlug, later.roleSlug⟩,
      (takes_cons_iff _ absent).mpr ⟨_, here.targets, later.targets⟩,
      (takes_cons_iff _ absent).mpr ⟨_, here.description, later.description⟩,
      (takes_cons_iff _ absent).mpr ⟨_, here.locked, later.locked⟩⟩

theorem Target.filled_nil_iff {before after : Target} :
    Target.Filled before [] after ↔ before = after := by
  obtain ⟨url, isDefault⟩ := before
  obtain ⟨url', isDefault'⟩ := after
  simp [Target.filled_iff, find?, Takes]

theorem Rule.filled_nil_iff {before after : Rule} :
    Rule.Filled before [] after ↔ before = after := by
  obtain ⟨environment, authPageUrl, roleSlug, targets, description, locked⟩ := before
  obtain ⟨environment', authPageUrl', roleSlug', targets', description', locked'⟩ := after
  simp [Rule.filled_iff, find?, Takes]

theorem Target.fill_eq_ok_iff {before after : Target} {members : Members}
    (distinct : (members.map Prod.fst).Nodup) :
    fill Target.assign before members = .ok after ↔ Target.Filled before members after :=
  Json.fill_eq_ok_iff Target.filled_nil_iff Target.assign_eq_ok_iff Target.filled_cons_iff distinct

theorem Rule.fill_eq_ok_iff {before after : Rule} {members : Members}
    (distinct : (members.map Prod.fst).Nodup) :
    fill Rule.assign before members = .ok after ↔ Rule.Filled before members after :=
  Json.fill_eq_ok_iff Rule.filled_nil_iff Rule.assign_eq_ok_iff Rule.filled_cons_iff distinct

end AuthRedirect
