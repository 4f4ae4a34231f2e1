import AuthRedirect.Document.Error
import AuthRedirect.Json.Printer
import AuthRedirect.Rule

/-!
Rules as they are stored: an array of objects. Objects written by older consoles
name two members differently and are read too. A member that is `null` counts as
left out, and what is left out has a default. What is written has every member
but an unset description.
-/

namespace AuthRedirect

open Json

/-! ## Reading -/

/-- The current name of a member of a rule. -/
def Rule.currentName (name : String) : String :=
  if name = "env" then "environment"
  else if name = "redirectionUrls" then "targets"
  else name

/-- The members of a rule under their current names, without those that are
`null`. Of two members that come to one name the later one counts, at the place
of the earlier one. -/
def Rule.upgrade (members : Members) : Members :=
  members.foldl
    (fun upgraded (name, value) =>
      if value.isNull then upgraded else put upgraded (Rule.currentName name) value)
    []

/-- A target with one more member of its object. -/
def Target.assign (target : Target) (name : String) (value : Json) : Checked Target :=
  match name with
  | "url" => do
      let url ← asStr value
      return { target with url := url }
  | "isDefault" => do
      let isDefault ← asBool value
      return { target with isDefault := isDefault }
  | _ => .ok target

/-- The target that an object stands for. -/
def Target.ofJson : Json → Checked Target
  | .obj members => fill Target.assign ⟨"", false⟩ (members.filter fun member => !member.2.isNull)
  | other => wrongKind .obj other

/-- A rule with one more member of its object. -/
def Rule.assign (rule : Rule) (name : String) (value : Json) : Checked Rule :=
  match name with
  | "environment" => do
      let environment ← asStr value
      return { rule with environment := environment }
  | "authPageUrl" => do
      let authPageUrl ← asStr value
      return { rule with authPageUrl := authPageUrl }
  | "roleSlug" => do
      let roleSlug ← asStr value
      return { rule with roleSlug := roleSlug }
  | "targets" => do
      let targets ← asList Target.ofJson value
      return { rule with targets := targets }
  | "description" => do
      let description ← asStr value
      return { rule with description := some description }
  | "locked" => do
      let locked ← asBool value
      return { rule with locked := locked }
  | _ => .ok rule

/-- A rule of which everything is left out. -/
def Rule.unfilled : Rule where
  environment := ""
  authPageUrl := ""

/-- The rule that an object stands for. -/
def Rule.ofJson : Json → Checked Rule
  | .obj members => fill Rule.assign Rule.unfilled (Rule.upgrade members)
  | other => wrongKind .obj other

/-! ## Writing -/

/-- A target as an object. -/
def Target.toJson (target : Target) : Json :=
  .obj [("url", .str target.url), ("isDefault", .bool target.isDefault)]

/-- A rule as an object. -/
def Rule.toJson (rule : Rule) : Json :=
  .obj <|
    [("environment", .str rule.environment), ("authPageUrl", .str rule.authPageUrl),
      ("roleSlug", .str rule.roleSlug), ("targets", .arr (rule.targets.map Target.toJson))] ++
    (rule.description.map fun description => ("description", Json.str description)).toList ++
    [("locked", .bool rule.locked)]

namespace Document

/-- The rules of a document. -/
def decodeRules (s : Text.RawText) : Except DecodeError (List Rule) := do
  match ← parse .rules s with
  | .arr items => ofChecked .rules (itemsFrom Rule.ofJson 0 items)
  | _ => .error .notAnArray

/-- The document of rules. -/
def encodeRules (rules : List Rule) : String :=
  (Json.arr (rules.map Rule.toJson)).documentText

end Document

end AuthRedirect
