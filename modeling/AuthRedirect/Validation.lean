import AuthRedirect.Rule
import AuthRedirect.Text.Blank

/-!
Checking rules before they are stored. Every problem is found, not only the
first. Errors keep a rule set from being stored and warnings do not: roles are
stored on their own, so a rule may name one that is not known yet.
-/

namespace AuthRedirect.Validation

open AuthRedirect.Text

/-! ## Issues -/

/-- A place in a rule. -/
inductive Part where
  | authPageUrl
  | targets
  | targetUrl (position : Nat)
  | roleSlug
deriving DecidableEq, Repr

/-- A place in a rule set, or in a rule that stands alone. -/
inductive Place where
  | ruleSet
  | rule (index : Option Int) (part : Part)
deriving DecidableEq, Repr

/-- What is wrong. -/
inductive Cause where
  | noRules
  | missingAuthPageUrl
  | slashAfterAuthPageUrl
  | noTargets
  | missingTargetUrl
  | slashAfterTargetUrl
  | severalDefaults
  | missingRole
  | unknownRole (slug : String)
  | competingDefaults (environment roleSlug : String)
deriving DecidableEq, Repr

/-- A problem and where it is. -/
structure Issue where
  place : Place
  cause : Cause
deriving DecidableEq, Repr

/-- Whether a problem keeps the rules from being stored. -/
def Cause.isError : Cause → Bool
  | .unknownRole _ | .competingDefaults _ _ => false
  | _ => true

/-- The text of a problem. -/
def Cause.message : Cause → String
  | .noRules => "At least one redirection rule is required"
  | .missingAuthPageUrl => "Auth page URL is required"
  | .slashAfterAuthPageUrl => "Auth page URL must not end with '/'"
  | .noTargets => "At least one redirection target is required"
  | .missingTargetUrl => "Redirection URL is required"
  | .slashAfterTargetUrl => "Redirection URL must not end with '/'"
  | .severalDefaults => "Only one target can be marked as default"
  | .missingRole => "Role is required; use '" ++ anyRole ++ "' to match every role"
  | .unknownRole slug => "Role '" ++ slug ++ "' is not defined for this organization"
  | .competingDefaults environment roleSlug =>
      "Multiple default URLs found for " ++ environment ++ "-" ++ roleSlug ++
        "; only one default is used per environment and role"

/-- A place in a rule as it is written in a path. -/
def Part.text : Part → String
  | .authPageUrl => "authPageUrl"
  | .targets => "targets"
  | .targetUrl position => "targets[" ++ toString position ++ "].url"
  | .roleSlug => "roleSlug"

/-- The path to a place. -/
def Place.text : Place → String
  | .ruleSet => "redirectionRules"
  | .rule none part => part.text
  | .rule (some index) part => "redirectionRules[" ++ toString index ++ "]." ++ part.text

/-- The path to the problem. -/
def Issue.path (issue : Issue) : String :=
  issue.place.text

/-- The text of the problem. -/
def Issue.message (issue : Issue) : String :=
  issue.cause.message

/-- Whether the problem keeps the rules from being stored. -/
def Issue.isError (issue : Issue) : Bool :=
  issue.cause.isError

/-- The word for how grave a problem is. -/
def Issue.severity (issue : Issue) : String :=
  if issue.isError then "error" else "warning"

/-! ## Reports -/

/-- The problems of a rule or a rule set. -/
structure Report where
  errors : List Issue := []
  warnings : List Issue := []
deriving DecidableEq, Repr

/-- The report on a list of problems. -/
def Report.ofIssues (issues : List Issue) : Report where
  errors := issues.filter fun issue => issue.isError
  warnings := issues.filter fun issue => !issue.isError

/-- Whether nothing keeps the rules from being stored. -/
def Report.ok (report : Report) : Bool :=
  report.errors.isEmpty

/-- All problems, the errors first. -/
def Report.issues (report : Report) : List Issue :=
  report.errors ++ report.warnings

/-- The message of a refusal for problems given by path and text. -/
def refusal (problems : List (String × String)) : String :=
  if problems.isEmpty then "Redirection rules are invalid"
  else "; ".intercalate (problems.map fun problem => problem.1 ++ ": " ++ problem.2)

/-- The path and the text of a problem. -/
def Issue.summary (issue : Issue) : String × String :=
  (issue.path, issue.message)

/-! ## One rule -/

/-- The problem of a required URL: it is blank, or it ends with a slash. -/
def urlCause? (missing slash : Cause) (url : String) : Option Cause :=
  if blank url then some missing
  else if url.toList.getLast? = some '/' then some slash
  else none

/-- The problem of a role: it is blank, or it is not among the known ones. -/
def roleCause? (roles : Option (List String)) (slug : String) : Option Cause :=
  if blank slug then some .missingRole
  else if slug = anyRole then none
  else if roles.all fun known => known.contains slug then none
  else some (.unknownRole slug)

/-- The number of targets that are flagged as the default. -/
def defaultCount (rule : Rule) : Nat :=
  rule.targets.countP fun target => target.isDefault

/-- The problems of targets from the given position on. -/
def targetIssues (position : Nat) : List Target → List (Part × Cause)
  | [] => []
  | target :: rest =>
      ((urlCause? .missingTargetUrl .slashAfterTargetUrl target.url).toList.map fun cause =>
        (.targetUrl position, cause)) ++ targetIssues (position + 1) rest

/-- The problems of a rule, in the order in which they are listed. -/
def partIssues (roles : Option (List String)) (rule : Rule) : List (Part × Cause) :=
  ((urlCause? .missingAuthPageUrl .slashAfterAuthPageUrl rule.authPageUrl).toList.map fun cause =>
      (.authPageUrl, cause)) ++
    (if rule.targets.isEmpty then [(.targets, .noTargets)] else []) ++
    targetIssues 0 rule.targets ++
    (if 1 < defaultCount rule then [(.targets, .severalDefaults)] else []) ++
    ((roleCause? roles rule.roleSlug).toList.map fun cause => (.roleSlug, cause))

/-- The problems of a rule at an index of a rule set, or of a rule alone. -/
def ruleIssues (roles : Option (List String)) (index : Option Int) (rule : Rule) : List Issue :=
  (partIssues roles rule).map fun (part, cause) => ⟨.rule index part, cause⟩

/-- The report on one rule. -/
def validateRule (roles : Option (List String)) (index : Option Int) (rule : Rule) : Report :=
  .ofIssues (ruleIssues roles index rule)

/-! ## Competing defaults -/

/-- The environment and the role that a rule is counted under. Empty ones go by
the names that messages use for them. -/
def group (rule : Rule) : String × String :=
  (if rule.environment.isEmpty then "unknown" else rule.environment,
    if rule.roleSlug.isEmpty then anyRole else rule.roleSlug)

/-- Numbers under keys, in the order in which the keys came up. -/
abbrev Tally (α : Type) := List (α × Nat)

/-- The tally with a number added under a key. -/
def Tally.add [DecidableEq α] (key : α) (amount : Nat) : Tally α → Tally α
  | [] => [(key, amount)]
  | (other, count) :: rest =>
      if other = key then (other, count + amount) :: rest
      else (other, count) :: Tally.add key amount rest

/-- How many rules of each group have a default. -/
def defaultTally (rules : List Rule) : Tally (String × String) :=
  rules.foldl (fun tally rule => tally.add (group rule) (if rule.hasDefault then 1 else 0)) []

/-- A warning for each group in which several rules have a default. -/
def competitionIssues (rules : List Rule) : List Issue :=
  ((defaultTally rules).filter fun entry => 1 < entry.2).map fun entry =>
    ⟨.ruleSet, .competingDefaults entry.1.1 entry.1.2⟩

/-! ## A rule set -/

/-- The problems of the rules from the given index on. -/
def ruleSetIssues (roles : Option (List String)) (index : Nat) : List Rule → List Issue
  | [] => []
  | rule :: rest => ruleIssues roles (some index) rule ++ ruleSetIssues roles (index + 1) rest

/-- The report on a rule set. A new organization has to have a rule. -/
def validateRuleSet (roles : Option (List String)) (isNewOrganization : Bool)
    (rules : List Rule) : Report :=
  .ofIssues
    ((if isNewOrganization && rules.isEmpty then [⟨.ruleSet, .noRules⟩] else []) ++
      ruleSetIssues roles 0 rules ++ competitionIssues rules)

end AuthRedirect.Validation
