import AuthRedirect.Rule

/-!
Operations on the rules of an organization, which are kept in order: removing
one, and making one URL the only default.
-/

namespace AuthRedirect.RuleSet

/-! ## Removing a rule -/

/-- Why a rule is not removed. -/
inductive RemovalError where
  | outOfRange
  /-- The index does not fit a machine word, so it is no index of any list. -/
  | tooWide
  | locked (index : Int)
deriving DecidableEq, Repr

/-- The message of a refusal. -/
def RemovalError.message : RemovalError → String
  | .outOfRange => "tuple index out of range"
  | .tooWide => "cannot fit 'int' into an index-sized integer"
  | .locked index => "Redirection rule at index " ++ toString index ++ " is locked"

/-- The place that an index stands for among `count` places. Negative indices
count from the end. -/
def position? (count : Nat) (index : Int) : Option Nat :=
  let position := if index < 0 then index + count else index
  if 0 ≤ position ∧ position < count then some position.toNat else none

/-- Whether an index fits a signed machine word. -/
def fitsWord (index : Int) : Bool :=
  -0x8000000000000000 ≤ index && index < 0x8000000000000000

/-- The rules without the one at an index. A locked rule stays. -/
def remove (rules : List Rule) (index : Int) : Except RemovalError (List Rule) :=
  match position? rules.length index with
  | none => .error (if fitsWord index then .outOfRange else .tooWide)
  | some position =>
      match rules[position]? with
      | none => .error .outOfRange
      | some rule => if rule.locked then .error (.locked index) else .ok (rules.eraseIdx position)

/-- A rule stands at a place exactly when as many rules stand in front of it. -/
theorem getElem?_eq_some_iff_split {rules : List Rule} {position : Nat} {rule : Rule} :
    rules[position]? = some rule ↔
      ∃ front back, rules = front ++ rule :: back ∧ front.length = position := by
  constructor
  · intro place
    obtain ⟨inside, rfl⟩ := List.getElem?_eq_some_iff.mp place
    refine ⟨rules.take position, rules.drop (position + 1), ?_,
      List.length_take_of_le (Nat.le_of_lt inside)⟩
    rw [List.getElem_cons_drop, List.take_append_drop]
  · rintro ⟨front, back, rfl, rfl⟩
    simp

/-! ## One default -/

/-- The rule with the given URL as its only default. -/
def markDefault (url : String) (rule : Rule) : Rule :=
  { rule with
    targets := rule.targets.map fun target => { target with isDefault := target.url == url } }

/-- Makes a URL the only default among the rules of an environment and a role. -/
def enforceSingleDefault (rules : List Rule) (environment roleSlug url : String) : List Rule :=
  rules.map fun rule =>
    if rule.environment = environment ∧ rule.roleSlug = roleSlug then markDefault url rule else rule

end AuthRedirect.RuleSet
