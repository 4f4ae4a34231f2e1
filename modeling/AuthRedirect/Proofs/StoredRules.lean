import AuthRedirect.Proofs.RuleDocuments
import AuthRedirect.Proofs.RuleMembers
import Mathlib.Logic.Relation

/-!
Which documents of rules are read, and which rules they stand for. `decodeRules_exact` says
for every value that the reader comes to whether it is taken, and as which rules. Only what
its objects give counts, so a document may be restated with older names, with more members
that are `null` and with members of other names: it is read as before, and if it is refused,
then with the same fault at the same place.
-/

namespace AuthRedirect

open AuthRedirect.Text AuthRedirect.Json

/-! ## What objects stand for -/

/-- Whether a value is a text. -/
def Json.IsText (value : Json) : Prop :=
  ∃ text, value = .str text

/-- Whether a value is a truth value. -/
def Json.IsFlag (value : Json) : Prop :=
  ∃ flag, value = .bool flag

/-- Whether what an object gives can be that of a target. -/
structure Target.Admits (members : Members) : Prop where
  url : ∀ value ∈ given? ["url"] members, value.IsText
  isDefault : ∀ value ∈ given? ["isDefault"] members, value.IsFlag

/-- Whether a value can stand for a target. -/
def Target.Fits (item : Json) : Prop :=
  ∃ members, item = .obj members ∧ Target.Admits members

/-- Whether a target is what an object gives, and the default where it gives nothing. -/
structure Target.GivenBy (members : Members) (target : Target) : Prop where
  url : (given? ["url"] members).getD (.str "") = .str target.url
  isDefault : (given? ["isDefault"] members).getD (.bool false) = .bool target.isDefault

/-- Whether a value stands for a target. -/
def Target.RepresentedBy (item : Json) (target : Target) : Prop :=
  ∃ members, item = .obj members ∧ Target.GivenBy members target

/-- Whether what an object gives can be that of a rule. -/
structure Rule.Admits (members : Members) : Prop where
  environment : ∀ value ∈ given? ["environment", "env"] members, value.IsText
  authPageUrl : ∀ value ∈ given? ["authPageUrl"] members, value.IsText
  roleSlug : ∀ value ∈ given? ["roleSlug"] members, value.IsText
  targets : ∀ value ∈ given? ["targets", "redirectionUrls"] members,
    ∃ items, value = .arr items ∧ ∀ item ∈ items, Target.Fits item
  description : ∀ value ∈ given? ["description"] members, value.IsText
  locked : ∀ value ∈ given? ["locked"] members, value.IsFlag

/-- Whether a value can stand for a rule. -/
def Rule.Fits (item : Json) : Prop :=
  ∃ members, item = .obj members ∧ Rule.Admits members

/-- Whether a rule is what an object gives, and the default where it gives nothing. -/
structure Rule.GivenBy (members : Members) (rule : Rule) : Prop where
  environment :
    (given? ["environment", "env"] members).getD (.str "") = .str rule.environment
  authPageUrl : (given? ["authPageUrl"] members).getD (.str "") = .str rule.authPageUrl
  roleSlug : (given? ["roleSlug"] members).getD (.str "any") = .str rule.roleSlug
  targets : ∃ items, (given? ["targets", "redirectionUrls"] members).getD (.arr []) = .arr items ∧
    List.Forall₂ Target.RepresentedBy items rule.targets
  description : given? ["description"] members = rule.description.map Json.str
  locked : (given? ["locked"] members).getD (.bool false) = .bool rule.locked

/-- Whether a value stands for a rule. -/
def Rule.RepresentedBy (item : Json) (rule : Rule) : Prop :=
  ∃ members, item = .obj members ∧ Rule.GivenBy members rule

namespace Json

variable {α : Type} {given : Option Json}

/-- A field that is checked is what is given, or what it was before. -/
theorem takes_iff_getD {check : Json → Checked α} {write : α → Json}
    (exact : ∀ {value x}, check value = .ok x ↔ value = write x)
    (injective : Function.Injective write) {before after : α} :
    Takes check before given after ↔ given.getD (write before) = write after := by
  cases given with
  | none => exact injective.eq_iff.symm
  | some value => exact exact

theorem takes_asStr_iff {before after : String} :
    Takes asStr before given after ↔ given.getD (.str before) = .str after :=
  takes_iff_getD asStr_eq_ok_iff fun _ _ => Json.str.inj

theorem takes_asBool_iff {before after : Bool} :
    Takes asBool before given after ↔ given.getD (.bool before) = .bool after :=
  takes_iff_getD asBool_eq_ok_iff fun _ _ => Json.bool.inj

theorem takes_some_asStr_iff {after : Option String} :
    Takes (fun value => (asStr value).map some) none given after ↔
      given = after.map Json.str := by
  cases given with
  | none => cases after <;> simp [Takes]
  | some value => cases after <;> simp [Takes, map_eq_ok_iff, asStr_eq_ok_iff]

/-- What is given fits where it can be written. -/
theorem exists_getD_iff {write : α → Json} (default : α) :
    (∃ x, given.getD (write default) = write x) ↔ ∀ value ∈ given, ∃ x, value = write x := by
  cases given with
  | none => simp
  | some value => simp

theorem exists_map_iff {write : α → Json} :
    (∃ x : Option α, given = x.map write) ↔ ∀ value ∈ given, ∃ x, value = write x := by
  cases given with
  | none => exact iff_of_true ⟨none, rfl⟩ (by simp)
  | some value =>
      constructor
      · rintro ⟨_ | x, same⟩ _ ⟨⟩
        · cases same
        · exact ⟨x, Option.some.inj same⟩
      · intro fits
        obtain ⟨x, rfl⟩ := fits value rfl
        exact ⟨some x, rfl⟩

theorem forall₂_congr_of_mem {β : Type} {R S : β → α → Prop} {xs : List β} {ys : List α}
    (same : ∀ x ∈ xs, ∀ y, R x y ↔ S x y) : List.Forall₂ R xs ys ↔ List.Forall₂ S xs ys := by
  induction xs generalizing ys with
  | nil => simp
  | cons x xs ih =>
      obtain ⟨here, later⟩ := List.forall_mem_cons.mp same
      simp only [List.forall₂_cons_left_iff, here, ih later]

theorem exists_forall₂_iff {β : Type} {R : β → α → Prop} {xs : List β} :
    (∃ ys, List.Forall₂ R xs ys) ↔ ∀ x ∈ xs, ∃ y, R x y := by
  induction xs with
  | nil => simp
  | cons x xs ih =>
      rw [List.forall_mem_cons, ← ih]
      constructor
      · rintro ⟨_, _ | ⟨here, later⟩⟩
        exact ⟨⟨_, here⟩, _, later⟩
      · rintro ⟨⟨y, here⟩, ys, later⟩
        exact ⟨y :: ys, .cons here later⟩

end Json

theorem Target.ofJson_eq_ok_iff {item : Json} (once : NamesOnce item) {target : Target} :
    Target.ofJson item = .ok target ↔ Target.RepresentedBy item target := by
  cases item with
  | obj members =>
      obtain ⟨distinct, -⟩ := once.of_obj
      have kept : ((members.filter fun member => !member.2.isNull).map Prod.fst).Nodup :=
        (List.filter_sublist.map Prod.fst).nodup distinct
      rw [Target.ofJson, Target.fill_eq_ok_iff kept, Target.filled_iff,
        find?_filter_isNull distinct, find?_filter_isNull distinct, takes_asStr_iff,
        takes_asBool_iff]
      constructor
      · rintro ⟨url, isDefault⟩
        exact ⟨members, rfl, url, isDefault⟩
      · rintro ⟨_, same, url, isDefault⟩
        cases same
        exact ⟨url, isDefault⟩
  | _ => simp [Target.ofJson, wrongKind, Target.RepresentedBy]

/-- A value can stand for a target exactly when it stands for one. -/
theorem Target.fits_iff {item : Json} :
    Target.Fits item ↔ ∃ target, Target.RepresentedBy item target := by
  constructor
  · rintro ⟨members, rfl, admits⟩
    obtain ⟨url, url'⟩ := (exists_getD_iff "").mpr admits.url
    obtain ⟨isDefault, isDefault'⟩ := (exists_getD_iff false).mpr admits.isDefault
    exact ⟨⟨url, isDefault⟩, members, rfl, url', isDefault'⟩
  · rintro ⟨target, members, rfl, given⟩
    exact ⟨members, rfl, (exists_getD_iff _).mp ⟨_, given.url⟩,
      (exists_getD_iff _).mp ⟨_, given.isDefault⟩⟩

/-- The targets of a rule are taken from an array, of which every item is a target. -/
theorem Target.takes_asList_iff {given : Option Json} {targets : List Target}
    (once : ∀ value ∈ given, NamesOnce value) :
    Takes (asList Target.ofJson) [] given targets ↔
      ∃ items, given.getD (.arr []) = .arr items ∧
        List.Forall₂ Target.RepresentedBy items targets := by
  cases given with
  | none =>
      constructor
      · rintro rfl
        exact ⟨[], rfl, .nil⟩
      · rintro ⟨_, same, all⟩
        cases same
        cases all
        rfl
  | some value =>
      refine asList_eq_ok_iff.trans (exists_congr fun items => and_congr_right ?_)
      rintro rfl
      have items' := (once _ rfl).of_arr
      exact forall₂_congr_of_mem fun item among _ => Target.ofJson_eq_ok_iff (items' item among)

theorem Target.exists_forall₂_iff {given : Option Json} :
    (∃ targets items, given.getD (.arr []) = .arr items ∧
        List.Forall₂ Target.RepresentedBy items targets) ↔
      ∀ value ∈ given, ∃ items, value = .arr items ∧ ∀ item ∈ items, Target.Fits item := by
  rw [exists_comm]
  simp only [exists_and_left, Json.exists_forall₂_iff, ← Target.fits_iff]
  cases given with
  | none => simp
  | some value => simp

theorem Rule.ofJson_eq_ok_iff {item : Json} (once : NamesOnce item) {rule : Rule} :
    Rule.ofJson item = .ok rule ↔ Rule.RepresentedBy item rule := by
  cases item with
  | obj members =>
      have values {names : List String} :
          ∀ value ∈ given? names members, NamesOnce value := by
        intro value given
        obtain ⟨name, among⟩ := mem_of_given? given
        exact once.of_obj.2 _ among
      rw [Rule.ofJson, Rule.fill_eq_ok_iff (Rule.nodup_upgrade members), Rule.filled_iff,
        Rule.find?_upgrade (by decide : ("environment", ["environment", "env"]) ∈ Rule.fields),
        Rule.find?_upgrade (by decide : ("authPageUrl", ["authPageUrl"]) ∈ Rule.fields),
        Rule.find?_upgrade (by decide : ("roleSlug", ["roleSlug"]) ∈ Rule.fields),
        Rule.find?_upgrade (by decide : ("targets", ["targets", "redirectionUrls"]) ∈ Rule.fields),
        Rule.find?_upgrade (by decide : ("description", ["description"]) ∈ Rule.fields),
        Rule.find?_upgrade (by decide : ("locked", ["locked"]) ∈ Rule.fields)]
      simp only [Rule.unfilled, takes_asStr_iff, takes_asBool_iff, takes_some_asStr_iff,
        Target.takes_asList_iff values]
      constructor
      · rintro ⟨environment, authPageUrl, roleSlug, targets, description, locked⟩
        exact ⟨members, rfl, environment, authPageUrl, roleSlug, targets, description, locked⟩
      · rintro ⟨_, same, given⟩
        cases same
        exact ⟨given.environment, given.authPageUrl, given.roleSlug, given.targets,
          given.description, given.locked⟩
  | _ => simp [Rule.ofJson, wrongKind, Rule.RepresentedBy]

/-- A value can stand for a rule exactly when it stands for one. -/
theorem Rule.fits_iff {item : Json} : Rule.Fits item ↔ ∃ rule, Rule.RepresentedBy item rule := by
  constructor
  · rintro ⟨members, rfl, admits⟩
    obtain ⟨environment, e⟩ := (exists_getD_iff "").mpr admits.environment
    obtain ⟨authPageUrl, a⟩ := (exists_getD_iff "").mpr admits.authPageUrl
    obtain ⟨roleSlug, r⟩ := (exists_getD_iff "any").mpr admits.roleSlug
    obtain ⟨targets, t⟩ := Target.exists_forall₂_iff.mpr admits.targets
    obtain ⟨description, d⟩ := exists_map_iff.mpr admits.description
    obtain ⟨locked, l⟩ := (exists_getD_iff false).mpr admits.locked
    exact ⟨⟨environment, authPageUrl, roleSlug, targets, description, locked⟩,
      members, rfl, e, a, r, t, d, l⟩
  · rintro ⟨rule, members, rfl, given⟩
    exact ⟨members, rfl, (exists_getD_iff _).mp ⟨_, given.environment⟩,
      (exists_getD_iff _).mp ⟨_, given.authPageUrl⟩, (exists_getD_iff _).mp ⟨_, given.roleSlug⟩,
      Target.exists_forall₂_iff.mp ⟨_, given.targets⟩, exists_map_iff.mp ⟨_, given.description⟩,
      (exists_getD_iff _).mp ⟨_, given.locked⟩⟩

/-! ## Objects that are restated -/

namespace Json

variable {α : Type} {members others : Members} {name : String} {value : Json}

/-- Members whose names are ignored make no difference to a record. -/
theorem fill_filter {assign : α → String → Json → Checked α} {counts : String → Bool}
    (ignored : ∀ record name value, counts name = false → assign record name value = .ok record)
    (record : α) (members : Members) :
    fill assign record (members.filter fun member => counts member.1) =
      fill assign record members := by
  induction members generalizing record with
  | nil => rfl
  | cons member rest ih =>
      obtain ⟨name, value⟩ := member
      cases counted : counts name with
      | true =>
          simp only [List.filter_cons, counted, if_true, fill, ih]
      | false =>
          rw [fill_cons rest (ignored record name value counted), ← ih]
          simp [counted]

theorem fill_eq_of_filter_eq {assign : α → String → Json → Checked α} {counts : String → Bool}
    (ignored : ∀ record name value, counts name = false → assign record name value = .ok record)
    (same : (members.filter fun member => counts member.1) =
      others.filter fun member => counts member.1) (record : α) :
    fill assign record members = fill assign record others := by
  rw [← fill_filter ignored, same, fill_filter ignored]

theorem filter_put (counts : String → Bool) (members : Members) (name : String) (value : Json) :
    ((put members name value).filter fun member => counts member.1) =
      if counts name then put (members.filter fun member => counts member.1) name value
      else members.filter fun member => counts member.1 := by
  induction members with
  | nil => cases counted : counts name <;> simp [put, counted]
  | cons member rest ih =>
      obtain ⟨other, old⟩ := member
      rw [put]
      by_cases same : other = name
      · subst same
        cases counted : counts other <;> simp [put, counted]
      · rw [if_neg same]
        cases counted : counts other <;> simp [put, counted, ih, same]
        split <;> rfl

/-- A part of an array that is checked alike may be put in the place of another one. -/
theorem itemsFrom_replace {check : Json → Checked α} {one other : Json}
    (same : check one = check other) (front back : List Json) (index : Nat) :
    itemsFrom check index (front ++ one :: back) =
      itemsFrom check index (front ++ other :: back) := by
  induction front generalizing index with
  | nil => simp only [List.nil_append, itemsFrom, same]
  | cons item front ih => simp only [List.cons_append, itemsFrom, ih]

/-- Members of one name that change a record alike. -/
def SameEffect (assign : α → String → Json → Checked α) (one other : String × Json) : Prop :=
  one.1 = other.1 ∧ ∀ record, assign record one.1 one.2 = assign record other.1 other.2

variable {assign : α → String → Json → Checked α}

theorem sameEffect_refl (members : Members) :
    List.Forall₂ (SameEffect assign) members members :=
  List.forall₂_same.mpr fun _ _ => ⟨rfl, fun _ => rfl⟩

theorem forall₂_sameEffect_put {value' : Json}
    (alike : List.Forall₂ (SameEffect assign) members others)
    (same : SameEffect assign (name, value) (name, value')) :
    List.Forall₂ (SameEffect assign) (put members name value) (put others name value') := by
  induction alike with
  | nil => exact .cons same .nil
  | @cons one other rest rest' here later ih =>
      obtain ⟨first, old⟩ := one
      obtain ⟨first', old'⟩ := other
      obtain rfl : first = first' := here.1
      rw [put, put]
      split
      · exact .cons same later
      · exact .cons here ih

theorem fill_eq_of_sameEffect (alike : List.Forall₂ (SameEffect assign) members others)
    (record : α) : fill assign record members = fill assign record others := by
  induction alike generalizing record with
  | nil => rfl
  | @cons one other rest rest' here later ih =>
      obtain ⟨name, value⟩ := one
      obtain ⟨name', value'⟩ := other
      obtain ⟨rfl, same⟩ : name = name' ∧ _ := here
      rw [fill, fill, same]
      simp only [ih]

end Json

/-- One change of a value that stands for a target: a member that is `null` or has a name
that does not count is put in. -/
inductive Target.Restated : Json → Json → Prop
  | null (before after : Members) (name : String) :
      Target.Restated (.obj (before ++ after)) (.obj (before ++ (name, .null) :: after))
  | other (before after : Members) {name : String} (value : Json)
      (unknown : name ∉ ["url", "isDefault"]) :
      Target.Restated (.obj (before ++ after)) (.obj (before ++ (name, value) :: after))

/-- One change of a value that stands for a rule: a member that is `null` or has a name that
does not count is put in, a member gets its older name, or one of the targets is restated. -/
inductive Rule.Restated : Json → Json → Prop
  | null (before after : Members) (name : String) :
      Rule.Restated (.obj (before ++ after)) (.obj (before ++ (name, .null) :: after))
  | other (before after : Members) {name : String} (value : Json)
      (unknown : ∀ field ∈ Rule.fields, name ∉ field.2) :
      Rule.Restated (.obj (before ++ after)) (.obj (before ++ (name, value) :: after))
  | older (before after : Members) {name former : String} (value : Json)
      (pair : (name, former) ∈ [("environment", "env"), ("targets", "redirectionUrls")]) :
      Rule.Restated (.obj (before ++ (name, value) :: after))
        (.obj (before ++ (former, value) :: after))
  | target (before after : Members) {name : String} (front back : List Json) {one other : Json}
      (named : name ∈ ["targets", "redirectionUrls"]) (restated : Target.Restated one other) :
      Rule.Restated (.obj (before ++ (name, .arr (front ++ one :: back)) :: after))
        (.obj (before ++ (name, .arr (front ++ other :: back)) :: after))

/-- One change of a document of rules. -/
inductive Document.Restated : Json → Json → Prop
  | rule (front back : List Json) {one other : Json} (restated : Rule.Restated one other) :
      Document.Restated (.arr (front ++ one :: back)) (.arr (front ++ other :: back))

theorem Target.assign_of_unknown {name : String} (unknown : name ∉ ["url", "isDefault"])
    (target : Target) (value : Json) : Target.assign target name value = .ok target := by
  unfold Target.assign
  split
  · simp at unknown
  · simp at unknown
  · rfl

/-- A target is read as before, or refused as before, when it is restated. -/
theorem Target.Restated.ofJson_eq {one other : Json} (restated : Target.Restated one other) :
    Target.ofJson one = Target.ofJson other := by
  cases restated with
  | null before after name => simp [Target.ofJson, isNull]
  | other before after value unknown =>
      have ignored (target : Target) (name : String) (value : Json)
          (uncounted : decide (name ∈ ["url", "isDefault"]) = false) :
          Target.assign target name value = .ok target :=
        Target.assign_of_unknown (of_decide_eq_false uncounted) target value
      refine fill_eq_of_filter_eq ignored ?_ _
      simp only [List.filter_append, List.filter_cons]
      split
      · simp only [List.filter_cons, unknown, decide_false, Bool.false_eq_true, if_false]
      · rfl

/-- Members with names that do not count may be left out before an object is upgraded. -/
theorem Rule.filter_upgrade (counts : String → Bool) (members : Members) :
    ((Rule.upgrade members).filter fun member => counts member.1) =
      Rule.upgrade (members.filter fun member => counts (Rule.currentName member.1)) := by
  induction members using List.reverseRecOn with
  | nil => rfl
  | append_singleton before member ih =>
      obtain ⟨name, value⟩ := member
      rw [Rule.upgrade_concat, List.filter_append]
      cases void : value.isNull <;> cases counted : counts (Rule.currentName name) <;>
        simp [counted, void, Rule.upgrade_concat, filter_put, ih]

/-- Whether a current name is that of a member that counts. -/
def Rule.counts (name : String) : Bool :=
  Rule.fields.any fun field => field.1 == name

theorem Rule.assign_of_uncounted (rule : Rule) (name : String) (value : Json)
    (uncounted : Rule.counts name = false) : Rule.assign rule name value = .ok rule := by
  unfold Rule.assign
  split
  all_goals first | rfl | cases uncounted

theorem Rule.counts_currentName {name : String}
    (unknown : ∀ field ∈ Rule.fields, name ∉ field.2) :
    Rule.counts (Rule.currentName name) = false := by
  rw [Rule.counts, List.any_eq_false]
  rintro ⟨current, names⟩ among same
  exact unknown _ among ((Rule.mem_names_iff among).mpr (beq_iff_eq.mp same).symm)

/-- An upgraded object has the effect that it had when a value in it is replaced by another
one with the same effect. -/
theorem Rule.upgrade_sameEffect {before after : Members} {name : String} {value value' : Json}
    (given : value.isNull = false) (given' : value'.isNull = false)
    (same : SameEffect Rule.assign (Rule.currentName name, value) (Rule.currentName name, value')) :
    List.Forall₂ (SameEffect Rule.assign) (Rule.upgrade (before ++ (name, value) :: after))
      (Rule.upgrade (before ++ (name, value') :: after)) := by
  induction after using List.reverseRecOn with
  | nil =>
      rw [Rule.upgrade_concat, Rule.upgrade_concat, given, given']
      exact forall₂_sameEffect_put (sameEffect_refl _) same
  | append_singleton after member ih =>
      rw [← List.cons_append, ← List.cons_append, ← List.append_assoc, ← List.append_assoc,
        Rule.upgrade_concat, Rule.upgrade_concat]
      split
      · exact ih
      · exact forall₂_sameEffect_put ih ⟨rfl, fun _ => rfl⟩

/-- A rule is read as before, or refused as before, when it is restated. -/
theorem Rule.Restated.ofJson_eq {one other : Json} (restated : Rule.Restated one other) :
    Rule.ofJson one = Rule.ofJson other := by
  cases restated with
  | null before after name => simp [Rule.ofJson, Rule.upgrade, isNull]
  | other before after value unknown =>
      -- The member may stand anywhere among the upgraded ones, but is filtered out of them.
      refine fill_eq_of_filter_eq Rule.assign_of_uncounted ?_ _
      rw [Rule.filter_upgrade, Rule.filter_upgrade, List.filter_append, List.filter_append,
        List.filter_cons_of_neg]
      simp [Rule.counts_currentName unknown]
  | @older before after name former value pair =>
      have same : Rule.currentName name = Rule.currentName former := by
        simp only [List.mem_cons, Prod.mk.injEq, List.not_mem_nil, or_false] at pair
        rcases pair with ⟨rfl, rfl⟩ | ⟨rfl, rfl⟩ <;> decide
      simp [Rule.ofJson, Rule.upgrade, same]
  | @target before after name front back one other named restated =>
      have current : Rule.currentName name = "targets" := by
        simp only [List.mem_cons, List.not_mem_nil, or_false] at named
        rcases named with rfl | rfl <;> decide
      have items := itemsFrom_replace restated.ofJson_eq front back 0
      have alike : SameEffect Rule.assign (Rule.currentName name, .arr (front ++ one :: back))
          (Rule.currentName name, .arr (front ++ other :: back)) := by
        refine ⟨rfl, fun rule => ?_⟩
        simp only [current, Rule.assign, asList, items]
      exact fill_eq_of_sameEffect (Rule.upgrade_sameEffect rfl rfl alike) _

/-! ## Documents -/

namespace Document

/-- The rules of the value that a document is read as. -/
def rulesOf : Json → Except DecodeError (List Rule)
  | .arr items => ofChecked .rules (itemsFrom Rule.ofJson 0 items)
  | _ => .error .notAnArray

theorem decodeRules_of_parse {s : RawText} {value : Json} (read : Json.parse s = .ok value) :
    decodeRules s = rulesOf value := by
  rw [decodeRules, parse, read]
  cases value <;> rfl

theorem rulesOf_eq_ok_iff {value : Json} (once : NamesOnce value) {rules : List Rule} :
    rulesOf value = .ok rules ↔
      ∃ items, value = .arr items ∧ List.Forall₂ Rule.RepresentedBy items rules := by
  cases value with
  | arr items =>
      have all : List.Forall₂ (fun item rule => Rule.ofJson item = .ok rule) items rules ↔
          List.Forall₂ Rule.RepresentedBy items rules :=
        forall₂_congr_of_mem fun item among _ => Rule.ofJson_eq_ok_iff (once.of_arr item among)
      rw [rulesOf, ofChecked, mapError_eq_ok_iff, itemsFrom_eq_ok_iff, all]
      simp
  | _ => simp [rulesOf]

theorem Restated.rulesOf_eq {one other : Json} (restated : Restated one other) :
    rulesOf one = rulesOf other := by
  cases restated with
  | rule front back restated =>
      rw [rulesOf, rulesOf, itemsFrom_replace restated.ofJson_eq]

theorem rulesOf_eq_of_eqvGen {one other : Json} (restated : Relation.EqvGen Restated one other) :
    rulesOf one = rulesOf other := by
  induction restated with
  | rel one other restated => exact restated.rulesOf_eq
  | refl one => rfl
  | symm one other _ ih => exact ih.symm
  | trans one middle other _ _ ih ih' => exact ih.trans ih'

/-- No name stands twice in an object that is read. Rules are read from arrays of objects that
fit, one from each object, and from nothing else. How an object is stated does not matter
otherwise. -/
theorem decodeRules_exact {s : RawText} {value : Json} (read : Json.parse s = .ok value) :
    NamesOnce value ∧
    ((∃ rules, decodeRules s = .ok rules) ↔
      ∃ items, value = .arr items ∧ ∀ item ∈ items, Rule.Fits item) ∧
    (∀ rules, decodeRules s = .ok rules ↔
      ∃ items, value = .arr items ∧ List.Forall₂ Rule.RepresentedBy items rules) ∧
    ∀ t other, Json.parse t = .ok other → Relation.EqvGen Restated value other →
      decodeRules t = decodeRules s := by
  have once := namesOnce_of_parse read
  have exact (rules : List Rule) : decodeRules s = .ok rules ↔
      ∃ items, value = .arr items ∧ List.Forall₂ Rule.RepresentedBy items rules := by
    rw [decodeRules_of_parse read, rulesOf_eq_ok_iff once]
  refine ⟨once, ?_, exact, ?_⟩
  · simp only [exact, Rule.fits_iff, ← exists_forall₂_iff]
    rw [exists_comm]
    simp only [exists_and_left]
  · intro t other read' restated
    rw [decodeRules_of_parse read, decodeRules_of_parse read', rulesOf_eq_of_eqvGen restated]

/-- The rule `legacyRule` as an older console wrote it. -/
def olderJson : Json :=
  .obj [("env", .str "production"), ("authPageUrl", .str "https://auth.acme.io"),
    ("roleSlug", .str "any"), ("description", .null),
    ("redirectionUrls", .arr (legacyRule.targets.map Target.toJson)), ("locked", .bool false)]

theorem olderJson_plain : Plain olderJson := by
  refine .obj (by decide) ?_
  simp only [List.forall_mem_cons]
  exact ⟨.str _, .str _, .str _, .null, .arr_map Target.toJson_plain _, .bool _,
    List.forall_mem_nil _⟩

theorem eqvGen_olderJson :
    Relation.EqvGen Restated (.arr [olderJson]) (.arr [legacyRule.toJson]) := by
  let page : Members := [("authPageUrl", .str "https://auth.acme.io"), ("roleSlug", .str "any")]
  let targets : Json := .arr (legacyRule.targets.map Target.toJson)
  let locked : String × Json := ("locked", .bool false)
  let environment : Json := .str "production"
  have shorter : Rule.Restated
      (.obj (("env", environment) :: page ++ [("redirectionUrls", targets), locked])) olderJson :=
    .null (("env", environment) :: page) _ "description"
  have renamed : Rule.Restated
      (.obj (("env", environment) :: page ++ [("targets", targets), locked]))
      (.obj (("env", environment) :: page ++ [("redirectionUrls", targets), locked])) :=
    .older (("env", environment) :: page) [locked] targets (by decide)
  have renamed' : Rule.Restated legacyRule.toJson
      (.obj (("env", environment) :: page ++ [("targets", targets), locked])) :=
    .older [] _ environment (by decide)
  have step {one other : Json} (restated : Rule.Restated one other) :
      Relation.EqvGen Restated (.arr [other]) (.arr [one]) :=
    .symm _ _ (.rel _ _ (.rule [] [] restated))
  exact .trans _ _ _ (step shorter) (.trans _ _ _ (step renamed) (step renamed'))

/-- What an older console wrote is the same rule. -/
theorem decodeRules_older :
    Json.parse (rawText (Json.arr [olderJson]).documentText) = .ok (.arr [olderJson]) ∧
      decodeRules (rawText (Json.arr [olderJson]).documentText) = .ok [legacyRule] ∧
      decodeRules (rawText (encodeRules [legacyRule])) =
        decodeRules (rawText (Json.arr [olderJson]).documentText) := by
  have read : Json.parse (rawText (Json.arr [olderJson]).documentText) = .ok (.arr [olderJson]) :=
    parse_documentText (.arr fun item among => List.mem_singleton.mp among ▸ olderJson_plain)
  have read' : Json.parse (rawText (encodeRules [legacyRule])) = .ok (.arr [legacyRule.toJson]) :=
    parse_documentText (.arr_map Rule.toJson_plain [legacyRule])
  obtain ⟨-, -, exact, restated⟩ := decodeRules_exact read
  have target : Target.RepresentedBy (Target.toJson ⟨"https://acme.io/é", false⟩)
      ⟨"https://acme.io/é", false⟩ :=
    ⟨_, rfl, rfl, rfl⟩
  have rule : Rule.RepresentedBy olderJson legacyRule :=
    ⟨_, rfl, rfl, rfl, rfl, ⟨_, rfl, .cons target .nil⟩, rfl, rfl⟩
  exact ⟨read, (exact _).mpr ⟨_, rfl, .cons rule .nil⟩, restated _ _ read' eqvGen_olderJson⟩

end Document

end AuthRedirect
