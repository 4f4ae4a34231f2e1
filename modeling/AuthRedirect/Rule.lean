/-!
Redirection rules: on which auth page a rule applies, for whom, and where it
sends them.
-/

namespace AuthRedirect

/-- The role slug that stands for every role. -/
def anyRole : String := "any"

/-- A place that a rule may send a user to. -/
structure Target where
  url : String
  isDefault : Bool := false
deriving DecidableEq, Repr

/-- A rule for the logins on one auth page. -/
structure Rule where
  environment : String
  authPageUrl : String
  roleSlug : String := anyRole
  targets : List Target := []
  description : Option String := none
  /-- A locked rule cannot be removed. -/
  locked : Bool := false
deriving DecidableEq, Repr

namespace Rule

/-- Whether the rule is for every role. -/
def appliesToAnyRole (rule : Rule) : Bool :=
  rule.roleSlug == anyRole

/-- The target that is listed first. -/
def firstTarget? (rule : Rule) : Option Target :=
  rule.targets.head?

/-- The first target that is flagged as the default, or else the first target. -/
def defaultTarget? (rule : Rule) : Option Target :=
  (rule.targets.find? fun target => target.isDefault) <|> rule.firstTarget?

/-- Whether a target is flagged as the default. -/
def hasDefault (rule : Rule) : Bool :=
  rule.targets.any fun target => target.isDefault

end Rule

end AuthRedirect
